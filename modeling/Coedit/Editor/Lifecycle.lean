/-!
# Editor lifecycle

An editor opens and closes documents one at a time until it is destroyed. `next?` is the
table of the legal transitions; everything else is refused.
-/

namespace Coedit

inductive EditorState where
  | uninitialized
  | loading
  | editing
  | closing
  | closed
  | destroyed
  deriving DecidableEq, Repr

inductive EditorAction where
  | open
  | ready
  | loadFailed
  | close
  | closed
  | destroy
  deriving DecidableEq, Repr

def EditorAction.name : EditorAction → String
  | .open => "Open"
  | .ready => "Ready"
  | .loadFailed => "LoadFailed"
  | .close => "Close"
  | .closed => "Closed"
  | .destroy => "Destroy"

structure IllegalTransition where
  state : EditorState
  action : EditorAction
  deriving DecidableEq, Repr

namespace EditorState

def name : EditorState → String
  | uninitialized => "uninitialized"
  | loading => "loading"
  | editing => "editing"
  | closing => "closing"
  | closed => "closed"
  | destroyed => "destroyed"

def all : List EditorState := [uninitialized, loading, editing, closing, closed, destroyed]

def ofName? (name : String) : Option EditorState := all.find? (·.name == name)

theorem ofName?_name (s : EditorState) : ofName? s.name = some s := by cases s <;> rfl

def next? : EditorState → EditorAction → Option EditorState
  | uninitialized, .open | closed, .open => some loading
  | loading, .ready => some editing
  | loading, .loadFailed => some closed
  | editing, .close => some closing
  | closing, .closed => some closed
  | uninitialized, .destroy | closed, .destroy => some destroyed
  | _, _ => none

def next (s : EditorState) (action : EditorAction) : Except IllegalTransition EditorState :=
  match s.next? action with
  | some s => .ok s
  | none => .error { state := s, action }

def canOpen (s : EditorState) : Bool := (s.next? .open).isSome

/-- Applies actions in turn; an illegal one leaves the state as it is. -/
def steps (s : EditorState) : List EditorAction → List (Except IllegalTransition EditorState)
  | [] => []
  | action :: rest =>
    match s.next action with
    | .ok s => .ok s :: steps s rest
    | .error e => .error e :: steps s rest

end EditorState

def IllegalTransition.message (e : IllegalTransition) : String :=
  "cannot " ++ e.action.name ++ " while " ++ e.state.name

def EditorAction.all : List EditorAction :=
  [.open, .ready, .loadFailed, .close, .closed, .destroy]

def EditorAction.ofName? (name : String) : Option EditorAction :=
  EditorAction.all.find? (·.name == name)

theorem EditorAction.ofName?_name (a : EditorAction) : ofName? a.name = some a := by
  cases a <;> rfl

end Coedit
