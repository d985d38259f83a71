import Coedit.Engine.Event

/-!
# Session events

What a session announces to the user interface of its local member.
-/

namespace Coedit

inductive SessionSignal where
  | memberAdded
  | memberUpdated
  | memberRemoved
  | cursorAdded
  | cursorMoved
  | cursorRemoved
  | paragraphChanged
  | styleCreated
  | styleDeleted
  | styleModified
  | undoStackChanged
  deriving DecidableEq, Repr

namespace SessionSignal

def all : List SessionSignal :=
  [memberAdded, memberUpdated, memberRemoved, cursorAdded, cursorMoved, cursorRemoved,
    paragraphChanged, styleCreated, styleDeleted, styleModified, undoStackChanged]

theorem mem_all (s : SessionSignal) : s ∈ all := by cases s <;> decide

def name : SessionSignal → String
  | memberAdded => "MemberAdded"
  | memberUpdated => "MemberUpdated"
  | memberRemoved => "MemberRemoved"
  | cursorAdded => "CursorAdded"
  | cursorMoved => "CursorMoved"
  | cursorRemoved => "CursorRemoved"
  | paragraphChanged => "ParagraphChanged"
  | styleCreated => "StyleCreated"
  | styleDeleted => "StyleDeleted"
  | styleModified => "StyleModified"
  | undoStackChanged => "UndoStackChanged"

end SessionSignal

instance : SignalKind SessionSignal where
  name := SessionSignal.name

/-- What changed about a paragraph: the style it resolves to, or anything else. -/
inductive ParagraphChange where
  | style (style : StyleId)
  | content
  deriving DecidableEq, Repr

inductive SessionEvent where
  | memberAdded (member : MemberId)
  | memberUpdated (member : MemberId)
  | memberRemoved (member : MemberId)
  | cursorAdded (member : MemberId)
  | cursorMoved (member : MemberId)
  | cursorRemoved (member : MemberId)
  | paragraphChanged (paragraph : ParagraphRef) (change : ParagraphChange)
  | styleCreated (style : StyleId)
  | styleDeleted (style : StyleId)
  | styleModified (style : StyleId)
  | undoStackChanged
  deriving DecidableEq, Repr

def SessionEvent.signal : SessionEvent → SessionSignal
  | memberAdded _ => .memberAdded
  | memberUpdated _ => .memberUpdated
  | memberRemoved _ => .memberRemoved
  | cursorAdded _ => .cursorAdded
  | cursorMoved _ => .cursorMoved
  | cursorRemoved _ => .cursorRemoved
  | paragraphChanged _ _ => .paragraphChanged
  | styleCreated _ => .styleCreated
  | styleDeleted _ => .styleDeleted
  | styleModified _ => .styleModified
  | undoStackChanged => .undoStackChanged

end Coedit
