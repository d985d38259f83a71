import Coedit.Editor.Chrome
import Coedit.Signal.Observer
import Coedit.Undo.Basic
import Coedit.Workspace.Command
import Coedit.Workspace.Reply

/-!
# Workspaces

A workspace holds an engine and those who work with it: at most one standalone session, at
most one editor, and observers. Whoever can be reached by an event has a number, and
subscriptions name their handlers by these numbers.
-/

namespace Coedit

inductive EngineListener where
  | session (id : Nat)
  | undoManager (id : Nat)
  /-- Passes metadata changes on to an editor's subscribers. -/
  | metadataRelay (editor : Nat)
  | observer (id : Nat)
  deriving DecidableEq, Repr

structure InputState where
  editing : Bool := false
  undoManager : Option Nat := none
  undoSubscription : Option Nat := none
  deriving DecidableEq, Repr

/-- A session; its subscribers are observers. A session that is no longer attached to its
owner finishes the reactions that are under way, and after that hears nothing. -/
structure Session where
  core : SessionCore
  frontend : Frontend
  bus : SignalBus SessionSignal Nat := { declared := SessionSignal.all }
  subscriptions : List (EngineSignal × Nat) := []
  availableFonts : List String := []
  input : InputState := {}
  attached : Bool := true
  reacting : Nat := 0

/-- An editor; its subscribers are observers. -/
structure Editor where
  id : Nat
  member : MemberId
  options : EditorOptions
  user : MemberProperties
  fontsCss : Option String
  frontend : Frontend
  toolbar : Toolbar := {}
  state : EditorState := .uninitialized
  session : Option Nat := none
  undoManager : Option Nat := none
  modifiedSubscription : Option Nat := none
  metadataSubscription : Option Nat := none
  bus : SignalBus EditorSignal Nat := { declared := EditorSignal.all }

/-- What commands hold while they run. -/
inductive Place where
  | standalone
  | editor
  deriving DecidableEq, Repr

inductive Access where
  | shared
  | exclusive
  deriving DecidableEq, Repr

/-- The names of signals and operations that the engine refuses to sessions and editors. -/
structure Refusals where
  signals : List String := []
  operations : List String := []
  deriving DecidableEq, Repr

structure Workspace where
  files : FileTree := {}
  engine : Engine EngineListener := {}
  refusals : Refusals := {}
  observers : Dict Nat (Observer Command) := ∅
  sessions : Dict Nat Session := ∅
  undoManagers : Dict Nat (UndoManager Nat) := ∅
  standalone : Option Nat := none
  editor : Option Editor := none
  /-- The editors that were replaced, and the numbers of those whose events are on their
  way. -/
  replaced : List Editor := []
  reporting : List Nat := []
  /-- The undo managers that are being told of a change. -/
  informed : List Nat := []
  nextId : Nat := 0
  holds : List (Place × Access) := []
  log : List LogEntry := []

abbrev Conduct := Command → Workspace → Reply × Workspace

/-- Work on a workspace that may fail. What was done before a failure stays done. -/
abbrev Attempt (ε α : Type) := ExceptT ε (StateM Workspace) α

def Attempt.of {ε α : Type} (f : Workspace → Except ε α × Workspace) : Attempt ε α :=
  ExceptT.mk f

def Attempt.result {ε α : Type} (a : Attempt ε α) (w : Workspace) : Except ε α × Workspace :=
  StateT.run (ExceptT.run a) w

namespace Workspace

def record (entry : LogEntry) (w : Workspace) : Workspace := { w with log := w.log ++ [entry] }

/-- Notes a call of the user interface, if it records its calls. -/
def interfaceNote (frontend : Frontend) (note : InterfaceNote) (w : Workspace) : Workspace :=
  match frontend with
  | .headless => w
  | .recording _ => w.record (.interface note)

def takeLog (w : Workspace) : List LogEntry × Workspace := (w.log, { w with log := [] })

def modifySession (id : Nat) (f : Session → Session) (w : Workspace) : Workspace :=
  { w with sessions := w.sessions.modify id f }

def modifyEditor (f : Editor → Editor) (w : Workspace) : Workspace :=
  { w with editor := w.editor.map f }

/-- The editor with this number. One that was replaced is out of reach, except while one of
its events is on its way. -/
def editor? (w : Workspace) (id : Nat) : Option Editor :=
  (w.editor.toList ++ w.replaced.filter fun e => w.reporting.contains e.id).find? (·.id == id)

def dropSession (id : Nat) (w : Workspace) : Workspace :=
  w.modifySession id fun s => { s with attached := false }

/-- An undo manager lives as long as the editor or an attached session uses it, or it is being
told of a change. -/
def isUndoManagerUsed (w : Workspace) (id : Nat) : Bool :=
  w.informed.contains id || w.editor.any (·.undoManager == some id) ||
    w.sessions.toList.any fun e => e.2.attached && e.2.input.undoManager == some id

def observerPotential (o : Observer Command) : Nat := o.remaining * Command.weights o.actions

/-- A bound for the batches that can still be applied if nothing comes from outside. -/
def potential (w : Workspace) : Nat :=
  w.observers.toList.foldr (fun e n => observerPotential e.2 + n) w.engine.pending.length

/-- Whether an object in use may be used in this way too. -/
def isFree (w : Workspace) (place : Place) (access : Access) : Bool :=
  w.holds.all fun h => !(h.1 == place && (access == .exclusive || h.2 == .exclusive))

/-- Runs a command while it holds an object, which must be free. -/
def holding (place : Place) (access : Access) (job : Workspace → Reply × Workspace)
    (w : Workspace) : Reply × Workspace :=
  if w.isFree place access then
    let (reply, w') := job { w with holds := (place, access) :: w.holds }
    (reply, { w' with holds := w.holds })
  else (.busy, w)

end Workspace

end Coedit
