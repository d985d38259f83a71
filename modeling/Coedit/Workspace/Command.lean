import Coedit.Editor.Event
import Coedit.Engine.Query
import Coedit.Feature
import Coedit.Session.Edit

/-!
# Commands

What can be done in a workspace: with its engine, with a session and the session's input
controller, and with an editor. Observers carry commands of their own, so commands nest; the
weight of a command bounds what can come of it.
-/

namespace Coedit

/-- The user interface of a session or editor: none, or one that records its calls and lets
the named parts refuse to be torn down. -/
inductive Frontend where
  | headless
  | recording (failing : List String)
  deriving DecidableEq, Repr

structure SessionSpec where
  member : MemberId
  fontsCss : Option String := none
  frontend : Frontend := .headless

structure EditorSpec where
  member : MemberId
  options : EditorOptions := {}
  user : MemberProperties := {}
  fontsCss : Option String := none
  frontend : Frontend := .headless

inductive EngineCommand where
  | register (url : String) (document : Document)
  | load (url : String)
  | close
  | flush
  | failNextClose (reason : String)
  | setImmediate (on : Bool)
  /-- Replaces the signals and the operations that the engine refuses to sessions. -/
  | refuse (signals operations : List String)
  | enqueue (batch : Batch)
  | takeSubmitted
  | unsubscribe (signal : EngineSignal) (id : Nat)
  | ask (query : EngineQuery)

inductive SessionQuery where
  | state
  | localMember
  | member (member : MemberId)
  | styles
  | attributes (style : StyleId)
  | isStyleUsed (style : StyleId)
  | declaredFonts
  | availableFonts
  | isEditing
  | undoState

inductive SessionCommand where
  | unsubscribe (signal : SessionSignal) (id : Nat)
  | ask (query : SessionQuery)
  | edit (edit : Edit)
  | undo
  | redo

inductive InputCommand where
  | insertCursor
  | removeCursor
  | setUndoManager
  | startEditing
  | endEditing

inductive EditorCommand where
  | open (url : String)
  | close
  | destroy
  | setUser (user : MemberProperties)
  | status
  | profile
  | setMetadata (set : Dict String String) (removed : List String)
  | metadata (property : String)
  | isModified
  | setModified (modified : Bool)
  | unsubscribe (signal : EditorSignal) (id : Nat)

inductive Command where
  | engine (command : EngineCommand)
  | session (command : SessionCommand)
  | input (command : InputCommand)
  | editor (command : EditorCommand)
  | newSession (spec : SessionSpec)
  | destroySession
  | newEditor (spec : EditorSpec)
  | watchEngine (signal : EngineSignal) (label : String) (actions : List Command) (times : Nat)
  | watchSession (signal : SessionSignal) (label : String) (actions : List Command) (times : Nat)
  | watchEditor (signal : EditorSignal) (label : String) (actions : List Command) (times : Nat)
  /-- A command that carried a value of the wrong form. -/
  | undecodable

namespace Command

mutual

/-- No command submits more than two batches, or starts more than one level of nesting;
beyond that it can only lead to what its observers will do. -/
def weight : Command → Nat
  | watchEngine _ _ actions times => 4 + times * weights actions
  | watchSession _ _ actions times => 4 + times * weights actions
  | watchEditor _ _ actions times => 4 + times * weights actions
  | _ => 4

def weights : List Command → Nat
  | [] => 0
  | c :: rest => weight c + weights rest

end

theorem weight_pos (c : Command) : 0 < c.weight := by
  cases c <;> simp only [weight] <;> omega

end Command

end Coedit
