import Coedit.Signal.Bus

/-!
# Undo managers

An undo manager without history: it remembers whether the document was modified and tells
its subscribers whenever that flag changes.
-/

namespace Coedit

/-- The one thing that an undo manager announces. -/
inductive ModifiedSignal where
  | modifiedChanged
  deriving DecidableEq, Repr

instance : SignalKind ModifiedSignal where
  name | .modifiedChanged => "()"

structure UndoManager (η : Type) where
  modified : Bool := false
  bus : SignalBus ModifiedSignal η := { declared := [.modifiedChanged] }
  deriving Repr

namespace UndoManager

variable {η : Type}

/-- Sets the flag; the second part says whether this is a change to announce. -/
def setModified (m : UndoManager η) (modified : Bool) : UndoManager η × Bool :=
  if m.modified == modified then (m, false) else ({ m with modified }, true)

theorem bus_setModified (m : UndoManager η) (modified : Bool) :
    (m.setModified modified).1.bus = m.bus := by
  unfold setModified
  split <;> rfl

def subscribe (m : UndoManager η) (handler : η) : Except SignalError (Nat × UndoManager η) :=
  match m.bus.subscribe .modifiedChanged handler with
  | .error e => .error e
  | .ok (id, bus) => .ok (id, { m with bus })

def unsubscribe (m : UndoManager η) (id : Nat) : UndoManager η :=
  { m with bus := m.bus.unsubscribe .modifiedChanged id }

/-- There is no history, so nothing can be undone or redone. -/
def hasUndoStates (_ : UndoManager η) : Bool := false

def hasRedoStates (_ : UndoManager η) : Bool := false

def undo (_ : UndoManager η) : Bool := false

def redo (_ : UndoManager η) : Bool := false

end UndoManager

end Coedit
