import Coedit.Editor.Error
import Coedit.Editor.Event
import Coedit.Engine.Query
import Coedit.Feature
import Coedit.Session.Edit
import Coedit.Signal.Observer

/-!
# Replies

What a workspace answers to a command, and what its log can hold.
-/

namespace Coedit

inductive Failure where
  | engine (cause : EngineError)
  | session (cause : SessionError)
  | editor (cause : EditorError)
  | teardown (cause : TeardownError)

structure SessionState where
  cursor : Option Cursor
  paragraph : Option ParagraphRef
  style : Option StyleId
  deriving DecidableEq, Repr

structure UndoState where
  modified : Bool
  hasUndoStates : Bool
  hasRedoStates : Bool
  deriving DecidableEq, Repr

structure EditorStatus where
  state : EditorState
  modified : Bool
  hasSession : Bool
  deriving DecidableEq, Repr

structure EditorProfile where
  member : MemberId
  options : EditorOptions
  user : MemberProperties
  deriving DecidableEq, Repr

inductive Reply where
  | done
  /-- An object that the command needs is in use by a command that is still running. -/
  | busy
  /-- There is no object for the command. -/
  | absent
  /-- The command carried a value that could not be read. -/
  | undecodable
  | failed (cause : Failure)
  | subscribed (id : Nat)
  | engine (answer : EngineAnswer)
  | edited (answer : EditAnswer)
  | flag (yes : Bool)
  | text (text : Option String)
  | member (member : Option Member)
  | memberId (id : MemberId)
  | styles (styles : List StyleSummary)
  | definition (definition : Option StyleDefinition)
  | declaredFonts (fonts : List (String × String))
  | availableFonts (families : List String)
  | sessionState (state : SessionState)
  | undoState (state : Option UndoState)
  | editorStatus (status : EditorStatus)
  | editorProfile (profile : EditorProfile)

inductive AnyEvent where
  | engine (event : EngineEvent)
  | session (event : SessionEvent)
  | editor (event : EditorEvent)

inductive InterfaceNote where
  | components (member : MemberId) (features : FeatureSet)
  | undoManager
  | attached (yes : Bool)
  | startEditing
  | endEditing
  | tornDown (part : String)
  deriving DecidableEq, Repr

inductive LogEntry where
  | observer (note : Note AnyEvent Reply)
  | interface (note : InterfaceNote)

end Coedit
