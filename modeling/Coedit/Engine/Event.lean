import Coedit.Signal.Bus
import Coedit.Operation.Basic

/-!
# Engine events

What an engine announces about a batch that it has applied.
-/

namespace Coedit

inductive EngineSignal where
  | memberAdded
  | memberUpdated
  | memberRemoved
  | cursorAdded
  | cursorMoved
  | cursorRemoved
  | paragraphChanged
  | styleCreated
  | styleDeleted
  | paragraphStyleModified
  | undoStackChanged
  | metadataChanged
  deriving DecidableEq, Repr

namespace EngineSignal

def all : List EngineSignal :=
  [memberAdded, memberUpdated, memberRemoved, cursorAdded, cursorMoved, cursorRemoved,
    paragraphChanged, styleCreated, styleDeleted, paragraphStyleModified, undoStackChanged,
    metadataChanged]

theorem mem_all (s : EngineSignal) : s ∈ all := by cases s <;> decide

def name : EngineSignal → String
  | memberAdded => "MemberAdded"
  | memberUpdated => "MemberUpdated"
  | memberRemoved => "MemberRemoved"
  | cursorAdded => "CursorAdded"
  | cursorMoved => "CursorMoved"
  | cursorRemoved => "CursorRemoved"
  | paragraphChanged => "ParagraphChanged"
  | styleCreated => "StyleCreated"
  | styleDeleted => "StyleDeleted"
  | paragraphStyleModified => "ParagraphStyleModified"
  | undoStackChanged => "UndoStackChanged"
  | metadataChanged => "MetadataChanged"

end EngineSignal

instance : SignalKind EngineSignal where
  name := EngineSignal.name

inductive EngineEvent where
  | memberAdded (member : MemberId)
  | memberUpdated (member : MemberId)
  | memberRemoved (member : MemberId)
  | cursorAdded (member : MemberId)
  | cursorMoved (member : MemberId)
  | cursorRemoved (member : MemberId)
  | paragraphChanged (paragraph : ParagraphRef) (member : MemberId)
  | styleCreated (style : StyleId)
  | styleDeleted (style : StyleId)
  | paragraphStyleModified (style : StyleId)
  | undoStackChanged
  | metadataChanged (set : Dict String String) (removed : List String)
  deriving DecidableEq

def EngineEvent.signal : EngineEvent → EngineSignal
  | memberAdded _ => .memberAdded
  | memberUpdated _ => .memberUpdated
  | memberRemoved _ => .memberRemoved
  | cursorAdded _ => .cursorAdded
  | cursorMoved _ => .cursorMoved
  | cursorRemoved _ => .cursorRemoved
  | paragraphChanged _ _ => .paragraphChanged
  | styleCreated _ => .styleCreated
  | styleDeleted _ => .styleDeleted
  | paragraphStyleModified _ => .paragraphStyleModified
  | undoStackChanged => .undoStackChanged
  | metadataChanged _ _ => .metadataChanged

end Coedit
