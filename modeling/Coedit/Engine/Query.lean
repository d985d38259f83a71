import Coedit.Engine.Basic

/-!
# Engine queries

What can be asked of an engine. Questions about the document, its members and their cursors
are answered from the replica, also when the document is closed.
-/

namespace Coedit

inductive EngineQuery where
  | submitted
  | pendingCount
  | isOpen
  | loadCount
  | document
  | subscriberCount (signal : EngineSignal)
  | subscriberCounts
  | member (member : MemberId)
  | cursor (member : MemberId)
  | paragraph (paragraph : ParagraphRef)
  | paragraphAt (position : StepPosition)
  | paragraphsInSelection (member : MemberId)
  | selectionIntersects (member : MemberId) (paragraph : ParagraphRef)
  | commonStyleName (style : StyleId)
  | hasParagraphStyle (style : StyleId)
  | paragraphStyles
  | styleDefinition (style : StyleId) (family : StyleFamily)
  | inheritedAttributes (style : StyleId) (includeDefault : Bool)
  | isStyleUsed (style : StyleId)
  | fonts
  | metadata (property : String)

inductive EngineAnswer where
  | batches (batches : List Batch)
  | number (n : Nat)
  | numbers (counts : List Nat)
  | flag (yes : Bool)
  | text (text : Option String)
  | document (document : Document)
  | member (member : Option Member)
  | cursor (cursor : Option Cursor)
  | paragraph (info : Option ParagraphInfo)
  | paragraphs (infos : List ParagraphInfo)
  | style (style : Option StyleId)
  | styles (styles : List StyleSummary)
  | definition (definition : Option StyleDefinition)
  | fonts (fonts : Dict String String)

/-- The definition of a style; only paragraph styles have one. -/
def Document.styleDefinition (d : Document) (style : StyleId) (family : StyleFamily) :
    Option StyleDefinition :=
  if family = .paragraph then d.definition? style else none

namespace Engine

variable {η : Type}

def subscriberCounts (e : Engine η) : List Nat := EngineSignal.all.map e.bus.subscriberCount

def answer (e : Engine η) : EngineQuery → EngineAnswer
  | .submitted => .batches e.submitted
  | .pendingCount => .number e.pending.length
  | .isOpen => .flag e.isOpen
  | .loadCount => .number e.loadCount
  | .document => .document e.document
  | .subscriberCount signal => .number (e.bus.subscriberCount signal)
  | .subscriberCounts => .numbers e.subscriberCounts
  | .member member => .member (e.replica.members.get? member)
  | .cursor member => .cursor (e.replica.cursors.get? member)
  | .paragraph paragraph => .paragraph (e.document.paragraph? paragraph)
  | .paragraphAt position => .paragraph (e.document.paragraphAt? position)
  | .paragraphsInSelection member => .paragraphs (e.replica.paragraphsInSelection member)
  | .selectionIntersects member paragraph =>
    .flag (e.replica.selectionIntersects member paragraph)
  | .commonStyleName style => .style (e.document.commonStyleName style)
  | .hasParagraphStyle style => .flag (e.document.styles.contains style)
  | .paragraphStyles => .styles e.document.paragraphStyles
  | .styleDefinition style family => .definition (e.document.styleDefinition style family)
  | .inheritedAttributes style includeDefault =>
    .definition (e.document.inheritedAttributes style includeDefault)
  | .isStyleUsed style => .flag (e.document.isStyleUsed style)
  | .fonts => .fonts e.document.fonts
  | .metadata property => .text (e.document.metadata.get? property)

end Engine

end Coedit
