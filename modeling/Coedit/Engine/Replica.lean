import Coedit.Document.Geometry
import Coedit.Document.StyleGraph
import Coedit.Engine.Event

/-!
# Applying operations

A replica is a document with the members who edit it and their cursors. Applying an
operation changes the replica and says what happened; an operation that finds nothing to
change says nothing.
-/

namespace Coedit

structure Replica where
  document : Document := {}
  members : Dict MemberId Member := ∅
  cursors : Dict MemberId Cursor := ∅

namespace Replica

/-- The paragraphs that meet a member's selection; none without a cursor. -/
def paragraphsInSelection (r : Replica) (member : MemberId) : List ParagraphInfo :=
  match r.cursors.get? member with
  | some cursor => r.document.paragraphsInRange cursor.selectedRange
  | none => []

def selectionIntersects (r : Replica) (member : MemberId) (paragraph : ParagraphRef) : Bool :=
  (r.paragraphsInSelection member).any (·.paragraph == paragraph)

def withDocument (r : Replica) (document : Document) : Replica := { r with document }

def removeCursor (r : Replica) (member : MemberId) : Replica × List EngineEvent :=
  if r.cursors.contains member then
    ({ r with cursors := r.cursors.erase member }, [.cursorRemoved member])
  else (r, [])

def removeRecord (r : Replica) (member : MemberId) : Replica × List EngineEvent :=
  if r.members.contains member then
    ({ r with members := r.members.erase member }, [.memberRemoved member])
  else (r, [])

def restyleFirst (paragraph : ParagraphRef) (style : StyleId) : List Paragraph → List Paragraph
  | [] => []
  | p :: rest =>
    if p.id = paragraph then { p with style } :: rest
    else p :: restyleFirst paragraph style rest

/-- Detaches a style from all paragraphs; they fall back to the default style. -/
def detachStyle (style : StyleId) (p : Paragraph) : Paragraph :=
  if p.style = style then { p with style := .default } else p

/-- Adds the metadata `set`, then removes the keys `removed`. -/
def updateMetadata (metadata set : Dict String String) (removed : List String) :
    Dict String String :=
  removed.foldl Dict.erase (metadata.extend set)

def apply (r : Replica) : Operation → Replica × List EngineEvent
  | .addMember member properties =>
    ({ r with members := r.members.insert member (.ofProperties member properties) },
      [if r.members.contains member then .memberUpdated member else .memberAdded member])
  | .removeMember member =>
    let (r, cursorEvents) := r.removeCursor member
    let (r, memberEvents) := r.removeRecord member
    (r, cursorEvents ++ memberEvents)
  | .addCursor member =>
    ({ r with cursors := r.cursors.insert member (.initial member) }, [.cursorAdded member])
  | .removeCursor member => r.removeCursor member
  | .moveCursor member position anchor kind =>
    if r.cursors.contains member then
      ({ r with cursors := r.cursors.modify member fun c =>
          { c with position, anchor, selectionKind := kind } },
        [.cursorMoved member])
    else (r, [])
  | .setParagraphStyle member paragraph _ style =>
    if r.document.paragraphs.any (·.id == paragraph) then
      (r.withDocument { r.document with
          paragraphs := restyleFirst paragraph style r.document.paragraphs },
        [.paragraphChanged paragraph member])
    else (r, [])
  | .addStyle _ style _ properties =>
    (r.withDocument { r.document with
        styles := r.document.styles.insert style { definition := properties } },
      [.styleCreated style])
  | .removeStyle member style _ =>
    if r.document.styles.contains style then
      (r.withDocument { r.document with
          styles := r.document.styles.erase style
          paragraphs := r.document.paragraphs.map (detachStyle style) },
        ((r.document.paragraphs.filter (·.style == style)).map fun p =>
          .paragraphChanged p.id member) ++ [.styleDeleted style])
    else (r, [])
  | .updateParagraphStyle _ style set removed =>
    if r.document.defines style then
      (r.withDocument (r.document.modifyDefinition style fun d =>
          removed.foldl StyleDefinition.eraseKey (d.overlay set)),
        [.paragraphStyleModified style])
    else (r, [])
  | .insertStructuredContent member position content =>
    (r.withDocument { r.document with
        inserted := r.document.inserted ++ [(position, content)] },
      match r.document.paragraphAt? position with
      | some info => [.paragraphChanged info.paragraph member]
      | none => [])
  | .updateMetadata _ set removed =>
    (r.withDocument { r.document with
        metadata := updateMetadata r.document.metadata set removed },
      [.metadataChanged set removed])

def applyAll (r : Replica) : Batch → Replica × List EngineEvent
  | [] => (r, [])
  | op :: rest =>
    let (r, events) := r.apply op
    let (r, later) := r.applyAll rest
    (r, events ++ later)

/-- Applies a batch as a whole. A batch with a document edit ends with the news that the
undo stack changed. -/
def applyBatch (r : Replica) (batch : Batch) : Replica × List EngineEvent :=
  let (r, events) := r.applyAll batch
  (r, if batch.any (·.isDocumentEdit) then events ++ [.undoStackChanged] else events)

end Replica

end Coedit
