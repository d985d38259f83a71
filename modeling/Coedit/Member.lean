/-!
# Members and their cursors

The people who edit a document together. Each has an identifier, a few properties that
others see, and at most one cursor.
-/

namespace Coedit

structure MemberId where
  text : String
  deriving DecidableEq, Repr, Inhabited

instance : Ord MemberId := ⟨fun a b => compare a.text b.text⟩

instance : Std.TransOrd MemberId where
  eq_swap := fun {a b} => show compare a.text b.text = (compare b.text a.text).swap from
    Std.OrientedCmp.eq_swap
  isLE_trans := fun {a b c} h₁ h₂ => show (compare a.text c.text).isLE from
    Std.TransCmp.isLE_trans (show (compare a.text b.text).isLE from h₁) h₂

instance : Std.LawfulEqOrd MemberId where
  compare_self := fun {a} => show compare a.text a.text = .eq from Std.ReflCmp.compare_self
  eq_of_compare := fun {a b} h => by
    cases a
    cases b
    exact congrArg MemberId.mk (Std.LawfulEqOrd.eq_of_compare h)

def lastHexDigits (count n : Nat) : String :=
  String.ofList ((List.range count).map fun i => Nat.digitChar (n / Nat.pow 16 (count - 1 - i) % 16))

/-- A fresh identifier, made from a number that was drawn at random. -/
def MemberId.ofNumber (n : Nat) : MemberId := ⟨"member-" ++ lastHexDigits 32 n⟩

structure MemberProperties where
  displayName : String := "Unknown Author"
  color : String := "black"
  imageRef : String := "avatar-joe.png"
  deriving DecidableEq, Repr, Inhabited

/-- Fills the empty properties. -/
def MemberProperties.withDefaults (p : MemberProperties) : MemberProperties :=
  let fill (value default : String) := if value = "" then default else value
  { displayName := fill p.displayName "Unknown Author"
    color := fill p.color "black"
    imageRef := fill p.imageRef "avatar-joe.png" }

structure Member where
  id : MemberId
  displayName : String
  color : String
  imageRef : String
  deriving DecidableEq, Repr

def Member.ofProperties (id : MemberId) (p : MemberProperties) : Member :=
  { id, displayName := p.displayName, color := p.color, imageRef := p.imageRef }

/-- A place in the document, counted in steps from its start. -/
abbrev StepPosition := Nat

inductive SelectionKind where
  | collapsed
  | range
  | region
  deriving DecidableEq, Repr

structure Cursor where
  member : MemberId
  position : StepPosition
  anchor : StepPosition
  selectionKind : SelectionKind
  deriving DecidableEq, Repr

namespace Cursor

def initial (member : MemberId) : Cursor :=
  { member, position := 0, anchor := 0, selectionKind := .collapsed }

/-- The two ends of the selection, the smaller one first. -/
def selectedRange (c : Cursor) : StepPosition × StepPosition :=
  (min c.anchor c.position, max c.anchor c.position)

end Cursor

end Coedit
