import Coedit.Document.Plain
import Coedit.Engine.Error
import Coedit.Engine.Replica

/-!
# The engine

An engine holds at most one open document. Batches are queued when they are submitted and
applied in order later; what happened is then announced on the engine's bus. This module
has the engine's own steps; handing its events to subscribers belongs to those who hold
both.
-/

namespace Coedit

/-- Whether a document was opened, and closed again. -/
inductive Phase where
  | idle
  | opened
  | closed
  deriving DecidableEq, Repr

structure Engine (η : Type) where
  phase : Phase := .idle
  replica : Replica := {}
  documents : Dict String Document := ∅
  pending : List Batch := []
  submitted : List Batch := []
  closeFailure : Option String := none
  loadCount : Nat := 0
  immediate : Bool := false
  bus : SignalBus EngineSignal η := { declared := EngineSignal.all }

namespace Engine

variable {η : Type}

def isOpen (e : Engine η) : Bool := e.phase == .opened

def document (e : Engine η) : Document := e.replica.document

def register (e : Engine η) (url : String) (document : Document) : Engine η :=
  { e with documents := e.documents.insert url document }

def find (e : Engine η) (files : FileTree) (url : String) : Except EngineError Document :=
  match e.documents.get? url with
  | some document => .ok document
  | none =>
    if files.isFile url then
      match files.text url with
      | .ok text => .ok (.ofText text)
      | .error cause => .error (.io cause)
    else .error (.documentNotFound url)

/-- Opens a document: members, cursors and queued batches of an earlier one are gone. -/
def openDocument (e : Engine η) (document : Document) : Engine η :=
  { e with
    phase := .opened
    replica := { document }
    pending := []
    loadCount := e.loadCount + 1 }

def load (e : Engine η) (files : FileTree) (url : String) : Except EngineError (Engine η) :=
  match e.find files url with
  | .ok document => .ok (e.openDocument document)
  | .error cause => .error cause

def accept (e : Engine η) (batch : Batch) : Except EngineError (Engine η) :=
  match e.phase with
  | .idle => .error .notLoaded
  | .closed => .error .closed
  | .opened =>
    .ok { e with submitted := e.submitted ++ [batch], pending := e.pending ++ [batch] }

/-- Applies the first batch of the queue; the events are those to announce. -/
def applyNext? (e : Engine η) : Option (List EngineEvent × Engine η) :=
  match e.pending with
  | [] => none
  | batch :: rest =>
    let (replica, events) := e.replica.applyBatch batch
    some (events, { e with replica, pending := rest })

/-- The end of closing, when the queue was flushed: a failure that was ordered strikes once. -/
def finishClose (e : Engine η) : Except EngineError Unit × Engine η :=
  match e.closeFailure with
  | some reason => (.error (.rejected reason), { e with closeFailure := none })
  | none => (.ok (), { e with phase := .closed })

def subscribe (e : Engine η) (signal : EngineSignal) (handler : η) :
    Except EngineError (Nat × Engine η) :=
  match e.bus.subscribe signal handler with
  | .ok (id, bus) => .ok (id, { e with bus })
  | .error cause => .error (.signal cause)

def unsubscribe (e : Engine η) (signal : EngineSignal) (id : Nat) : Engine η :=
  { e with bus := e.bus.unsubscribe signal id }

end Engine

end Coedit
