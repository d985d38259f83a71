import Coedit.Operation.Basic
import Coedit.Wire.Content
import Coedit.Wire.Member

/-!
# Operations on the wire

Every operation is a choice with a record; the choice has the operation's name.
-/

namespace Coedit.Wire

def memberField (fields : Fields) : Option MemberId := fields.get "member_id" readMemberId

def readAddMember : Reader Operation := fun v => do
  let fields ← readRecord ["member_id", "properties"] v
  let member ← memberField fields
  let properties ← fields.get "properties" (readMemberProperties .json)
  pure (.addMember member properties)

def readMemberOnly (make : MemberId → Operation) : Reader Operation := fun v => do
  let fields ← readRecord ["member_id"] v
  (memberField fields).map make

def readMoveCursor : Reader Operation := fun v => do
  let fields ← readRecord ["member_id", "position", "anchor", "selection_kind"] v
  let member ← memberField fields
  let position ← fields.get "position" readWord
  let anchor ← fields.get "anchor" readWord
  let kind ← fields.get "selection_kind" readSelectionKind
  pure (.moveCursor member position anchor kind)

def readSetParagraphStyle : Reader Operation := fun v => do
  let fields ← readRecord ["member_id", "paragraph", "position", "style_id"] v
  let member ← memberField fields
  let paragraph ← fields.get "paragraph" readWord
  let position ← fields.get "position" readWord
  let style ← fields.get "style_id" readStyleId
  pure (.setParagraphStyle member paragraph position style)

def readAddStyle : Reader Operation := fun v => do
  let fields ← readRecord ["member_id", "style_id", "family", "properties"] v
  let member ← memberField fields
  let style ← fields.get "style_id" readStyleId
  let family ← fields.get "family" readStyleFamily
  let properties ← fields.get "properties" readStyleDefinition
  pure (.addStyle member style family properties)

def readRemoveStyle : Reader Operation := fun v => do
  let fields ← readRecord ["member_id", "style_id", "family"] v
  let member ← memberField fields
  let style ← fields.get "style_id" readStyleId
  let family ← fields.get "family" readStyleFamily
  pure (.removeStyle member style family)

def readUpdateParagraphStyle : Reader Operation := fun v => do
  let fields ← readRecord ["member_id", "style_id", "set_properties", "removed_properties"] v
  let member ← memberField fields
  let style ← fields.get "style_id" readStyleId
  let set ← fields.get "set_properties" readStyleDefinition
  let removed ← fields.get "removed_properties" (readList readText)
  pure (.updateParagraphStyle member style set removed)

def readInsertContent : Reader Operation := fun v => do
  let fields ← readRecord ["member_id", "position", "content"] v
  let member ← memberField fields
  let position ← fields.get "position" readWord
  let content ← fields.get "content" readContent
  pure (.insertStructuredContent member position content)

def readUpdateMetadata : Reader Operation := fun v => do
  let fields ← readRecord ["member_id", "set_properties", "removed_properties"] v
  let member ← memberField fields
  let set ← fields.get "set_properties" readTextDict
  let removed ← fields.get "removed_properties" (readList readText)
  pure (.updateMetadata member set removed)

def operationReader? : String → Option (Reader Operation)
  | "AddMember" => some readAddMember
  | "RemoveMember" => some (readMemberOnly .removeMember)
  | "AddCursor" => some (readMemberOnly .addCursor)
  | "RemoveCursor" => some (readMemberOnly .removeCursor)
  | "MoveCursor" => some readMoveCursor
  | "SetParagraphStyle" => some readSetParagraphStyle
  | "AddStyle" => some readAddStyle
  | "RemoveStyle" => some readRemoveStyle
  | "UpdateParagraphStyle" => some readUpdateParagraphStyle
  | "InsertStructuredContent" => some readInsertContent
  | "UpdateMetadata" => some readUpdateMetadata
  | _ => none

def readOperation : Reader Operation := fun v => do
  let (name, content) ← readChoice v
  let read ← operationReader? name
  read content

def readBatch : Reader Batch := readList readOperation

def operationFields : Operation → Fields
  | .addMember _ properties => [("properties", ofMemberProperties properties)]
  | .removeMember _ | .addCursor _ | .removeCursor _ => []
  | .moveCursor _ position anchor kind =>
    [("position", ofWord position), ("anchor", ofWord anchor),
      ("selection_kind", ofSelectionKind kind)]
  | .setParagraphStyle _ paragraph position style =>
    [("paragraph", ofWord paragraph), ("position", ofWord position),
      ("style_id", ofStyleId style)]
  | .addStyle _ style family properties =>
    [("style_id", ofStyleId style), ("family", ofStyleFamily family),
      ("properties", ofStyleDefinition properties)]
  | .removeStyle _ style family =>
    [("style_id", ofStyleId style), ("family", ofStyleFamily family)]
  | .updateParagraphStyle _ style set removed =>
    [("style_id", ofStyleId style), ("set_properties", ofStyleDefinition set),
      ("removed_properties", ofTexts removed)]
  | .insertStructuredContent _ position content =>
    [("position", ofWord position), ("content", ofContent content)]
  | .updateMetadata _ set removed =>
    [("set_properties", ofTextDict set), ("removed_properties", ofTexts removed)]

def ofOperation (op : Operation) : Value :=
  .object [(op.name, .object (("member_id", ofMemberId op.member) :: operationFields op))]

def ofBatch (batch : Batch) : Value := ofList ofOperation batch

end Coedit.Wire
