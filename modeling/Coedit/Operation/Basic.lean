import Coedit.Document.Basic

/-!
# Operations

Every change to a document, its members or their cursors is an operation that carries the
member who made it. Operations are submitted in batches.
-/

namespace Coedit

inductive Operation where
  | addMember (member : MemberId) (properties : MemberProperties)
  | removeMember (member : MemberId)
  | addCursor (member : MemberId)
  | removeCursor (member : MemberId)
  | moveCursor (member : MemberId) (position anchor : StepPosition) (kind : SelectionKind)
  | setParagraphStyle (member : MemberId) (paragraph : ParagraphRef) (position : StepPosition)
      (style : StyleId)
  | addStyle (member : MemberId) (style : StyleId) (family : StyleFamily)
      (properties : StyleDefinition)
  | removeStyle (member : MemberId) (style : StyleId) (family : StyleFamily)
  | updateParagraphStyle (member : MemberId) (style : StyleId) (set : StyleDefinition)
      (removed : List String)
  | insertStructuredContent (member : MemberId) (position : StepPosition)
      (content : StructuredContent)
  | updateMetadata (member : MemberId) (set : Dict String String) (removed : List String)

abbrev Batch := List Operation

namespace Operation

def member : Operation → MemberId
  | addMember m _ | removeMember m | addCursor m | removeCursor m | moveCursor m _ _ _
  | setParagraphStyle m _ _ _ | addStyle m _ _ _ | removeStyle m _ _
  | updateParagraphStyle m _ _ _ | insertStructuredContent m _ _ | updateMetadata m _ _ => m

def name : Operation → String
  | addMember .. => "AddMember"
  | removeMember .. => "RemoveMember"
  | addCursor .. => "AddCursor"
  | removeCursor .. => "RemoveCursor"
  | moveCursor .. => "MoveCursor"
  | setParagraphStyle .. => "SetParagraphStyle"
  | addStyle .. => "AddStyle"
  | removeStyle .. => "RemoveStyle"
  | updateParagraphStyle .. => "UpdateParagraphStyle"
  | insertStructuredContent .. => "InsertStructuredContent"
  | updateMetadata .. => "UpdateMetadata"

/-- Whether the operation changes the document itself, and not only who is present. -/
def isDocumentEdit : Operation → Bool
  | addMember .. | removeMember .. | addCursor .. | removeCursor .. | moveCursor .. => false
  | _ => true

end Operation

end Coedit
