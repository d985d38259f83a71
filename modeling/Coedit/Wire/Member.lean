import Coedit.Member
import Coedit.Wire.Value

/-!
# Members on the wire
-/

namespace Coedit.Wire

def readMemberId : Reader MemberId := fun v => (readText v).map MemberId.mk

def ofMemberId (id : MemberId) : Value := .text id.text

def readMemberProperties (format : Format) : Reader MemberProperties := fun v => do
  let fields ← readDefaulted format ["display_name", "color", "image_ref"] v
  let initial : MemberProperties := {}
  let displayName ← fields.getD "display_name" readText initial.displayName
  let color ← fields.getD "color" readText initial.color
  let imageRef ← fields.getD "image_ref" readText initial.imageRef
  pure { displayName, color, imageRef }

def ofMemberProperties (p : MemberProperties) : Value :=
  .object [("display_name", .text p.displayName), ("color", .text p.color),
    ("image_ref", .text p.imageRef)]

def ofMember (m : Member) : Value :=
  .object [("member_id", ofMemberId m.id), ("display_name", .text m.displayName),
    ("color", .text m.color), ("image_ref", .text m.imageRef)]

def selectionKindNames : List (String × SelectionKind) :=
  [("Collapsed", .collapsed), ("Range", .range), ("Region", .region)]

def readSelectionKind : Reader SelectionKind := readName .json selectionKindNames

def ofSelectionKind : SelectionKind → Value
  | .collapsed => .text "Collapsed"
  | .range => .text "Range"
  | .region => .text "Region"

theorem readSelectionKind_ofSelectionKind (k : SelectionKind) :
    readSelectionKind (ofSelectionKind k) = some k := by
  cases k <;> rfl

def ofCursor (c : Cursor) : Value :=
  .object [("member_id", ofMemberId c.member), ("position", ofWord c.position),
    ("anchor", ofWord c.anchor), ("selection_kind", ofSelectionKind c.selectionKind)]

end Coedit.Wire
