import Coedit.Proofs.Session.Submission
import Coedit.Proofs.Workspace.Timing

/-!
# What happens to a document that stays open

From one call to the next a session carries out an edit, or somebody submits a batch, flushes, or
changes whether batches are applied at once. What holds across each of the changes that submitting
comes down to holds across every such run.
-/

namespace Coedit

inductive Occasion where
  | edit (session : Nat) (e : Edit)
  | turn (t : Turn)

def Occasion.run (w : Workspace) : Occasion → Workspace
  | edit session e => (w.edit Workspace.conduct session e).2
  | turn t => (w.execute t.command).2

namespace Workspace

def live (w : Workspace) (run : List Occasion) : Workspace := run.foldl Occasion.run w

/-- A relation between quiet workspaces that also holds when the time of applying changes. -/
structure Routine (R : Workspace → Workspace → Prop) : Prop extends Submission R where
  immediate : ∀ {w}, Quiet w → ∀ on, R w (w.withEngine { w.engine with immediate := on })

variable {R : Workspace → Workspace → Prop} {w : Workspace}

/-- A turn comes to a change of the workspace, whatever it answers. -/
theorem execute_turn (w : Workspace) (t : Turn) :
    (w.execute t.command).2 = match t with
      | .enqueue batch => (w.enqueue conduct batch).2
      | .flush => w.flush conduct
      | .immediate on => w.withEngine { w.engine with immediate := on } := by
  rw [execute_eq_step]
  cases t with
  | enqueue batch =>
      simp only [Turn.command, step, doEngine]
      cases hr : w.enqueue conduct batch with
      | mk result w' => cases result <;> rfl
  | flush => rfl
  | immediate on => rfl

namespace Routine

theorem turn (hR : Routine R) (h : w.Quiet) (t : Turn) : R w (w.execute t.command).2 := by
  rw [execute_turn]
  cases t with
  | enqueue batch => exact hR.enqueue h batch
  | flush => exact hR.flush h
  | immediate on => exact hR.immediate h on

theorem occasion (hR : Routine R) (h : w.Quiet) (o : Occasion) : R w (o.run w) := by
  cases o with
  | edit session e => exact hR.edit h session e
  | turn t => exact hR.turn h t

theorem live (hR : Routine R) (h : w.Quiet) (run : List Occasion) : R w (w.live run) := by
  induction run generalizing w with
  | nil => exact hR.refl h
  | cons o rest ih =>
      have hfirst := hR.occasion h o
      exact hR.trans hfirst (ih (hR.quiet hfirst))

end Routine

end Workspace

end Coedit
