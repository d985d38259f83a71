import Coedit.Proofs.Session.Alone
import Coedit.Proofs.Workspace.Quiet
import Coedit.Proofs.Workspace.Upshot

/-!
# Submitting batches

Enqueueing, submitting and editing come down to a few changes of the workspace: a batch is
queued, an identifier is reserved or released, the queue is applied. What holds between the
workspaces before and after each of these holds of a whole edit.
-/

namespace Coedit.Workspace

/-- A relation between quiet workspaces that holds across every change that submitting a batch
comes down to. -/
structure Submission (R : Workspace → Workspace → Prop) : Prop where
  quiet : ∀ {w w'}, R w w' → w'.Quiet
  refl : ∀ {w}, Quiet w → R w w
  trans : ∀ {w w' w''}, R w w' → R w' w'' → R w w''
  flush : ∀ {w}, Quiet w → R w (w.flush conduct)
  queued : ∀ {w}, Quiet w → ∀ batch, R w { w with engine := Agenda.queued w.engine batch }
  reserve : ∀ {w}, Quiet w → ∀ id p, R w (w.changeReservation id p .reserve)
  release : ∀ {w}, Quiet w → ∀ id p, R w (w.changeReservation id p .release)

namespace Submission

variable {R : Workspace → Workspace → Prop} {w : Workspace}

theorem followUp (hR : Submission R) (h : w.Quiet) : R w (w.followUp conduct) := by
  unfold Workspace.followUp
  split
  · exact hR.flush h
  · exact hR.refl h

theorem enqueue (hR : Submission R) (h : w.Quiet) (batch : Batch) :
    R w (w.enqueue conduct batch).2 := by
  unfold Workspace.enqueue
  cases ht : w.take batch with
  | error cause => exact hR.refl h
  | ok w' =>
      obtain ⟨-, rfl⟩ := Agenda.engine_take ht
      have hqueued := hR.queued h batch
      exact hR.trans hqueued (hR.followUp (hR.quiet hqueued))

theorem submit (hR : Submission R) (h : w.Quiet) (batch : Batch) :
    R w (w.submit conduct batch).2 := by
  unfold Workspace.submit
  cases ht : w.takeFrom batch with
  | error cause => exact hR.refl h
  | ok w' =>
      obtain rfl := takeFrom_eq ht
      have hqueued := hR.queued h batch
      exact hR.trans hqueued (hR.followUp (hR.quiet hqueued))

theorem queueEdit (hR : Submission R) (h : w.Quiet) (id : Nat) (e : Edit) :
    R w (w.queueEdit id e).2 := by
  unfold Workspace.queueEdit
  cases w.sessions.get? id with
  | none => exact hR.refl h
  | some s =>
      simp only
      cases s.core.propose w.engine.replica e with
      | error cause => exact hR.refl h
      | ok p =>
          simp only
          split
          · exact hR.refl h
          · have hreserve := hR.reserve h id p
            have hquiet := hR.quiet hreserve
            cases ht : (w.changeReservation id p .reserve).takeFrom p.batch with
            | error cause => exact hR.trans hreserve (hR.release hquiet id p)
            | ok w' =>
                obtain rfl := takeFrom_eq ht
                exact hR.trans hreserve (hR.queued hquiet p.batch)

theorem edit (hR : Submission R) (h : w.Quiet) (id : Nat) (e : Edit) :
    R w (w.edit conduct id e).2 :=
  of_edit (hR.queueEdit h id e) fun _ hqueue => hR.trans hqueue (hR.followUp (hR.quiet hqueue))

end Submission

end Coedit.Workspace
