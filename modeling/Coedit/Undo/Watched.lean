import Coedit.Undo.Basic

/-!
# Watched undo managers

An undo manager whose listeners note what they hear. A listener may answer every change by
setting the flag itself, which the others hear before the first change reaches them.
-/

namespace Coedit

structure ModifiedListener where
  label : String
  setTo : Option Bool := none
  deriving DecidableEq, Repr

structure WatchedUndoManager where
  manager : UndoManager ModifiedListener := {}
  heard : List (String × Bool) := []

namespace WatchedUndoManager

def setWithin : Nat → Bool → WatchedUndoManager → WatchedUndoManager
  | 0, _, w => w
  | depth + 1, modified, w =>
    let (manager, changed) := w.manager.setModified modified
    let w := { w with manager }
    if changed then
      w.manager.bus.deliver .modifiedChanged
        (fun listener w =>
          let w := { w with heard := w.heard ++ [(listener.label, modified)] }
          match listener.setTo with
          | some flag => setWithin depth flag w
          | none => w)
        w
    else w

/-- Sets the flag and tells the listeners. Listeners that contradict each other would go on
for ever and are stopped; all others settle within two levels. -/
def setModified (modified : Bool) (w : WatchedUndoManager) : WatchedUndoManager :=
  setWithin 2 modified w

def subscribe (listener : ModifiedListener) (w : WatchedUndoManager) :
    Except SignalError (Nat × WatchedUndoManager) :=
  (w.manager.subscribe listener).map fun (id, manager) => (id, { w with manager })

def unsubscribe (id : Nat) (w : WatchedUndoManager) : WatchedUndoManager :=
  { w with manager := w.manager.unsubscribe id }

end WatchedUndoManager

end Coedit
