import Coedit.Proofs.Editor.Ownership
import Coedit.Proofs.Session.Submission

/-!
# What disturbs no owner

Submitting and applying batches, editing, and telling observers leave the subscriptions to the
engine, their records and the editor as they are.
-/

namespace Coedit.Workspace

/-- Nothing happened to the subscriptions to the engine and to the undo managers, to their records,
or to the editor. -/
structure Undisturbed (w w' : Workspace) : Prop where
  quiet : w'.Quiet
  refusals : w'.refusals = w.refusals
  bus : w'.engine.bus = w.engine.bus
  editor : w'.editor = w.editor
  nextId : w.nextId ≤ w'.nextId
  managers : ∀ id, (w'.undoManagers.get? id).map (·.bus) = (w.undoManagers.get? id).map (·.bus)
  records : ∀ id, (w'.sessions.get? id).map Session.records =
    (w.sessions.get? id).map Session.records

section Undisturbed

variable {w w' w'' : Workspace}

theorem Undisturbed.refl (h : w.Quiet) : Undisturbed w w :=
  ⟨h, rfl, rfl, rfl, Nat.le_refl _, fun _ => rfl, fun _ => rfl⟩

theorem Undisturbed.trans (h : Undisturbed w w') (h' : Undisturbed w' w'') : Undisturbed w w'' where
  quiet := h'.quiet
  refusals := h'.refusals.trans h.refusals
  bus := h'.bus.trans h.bus
  editor := h'.editor.trans h.editor
  nextId := Nat.le_trans h.nextId h'.nextId
  managers := fun id => (h'.managers id).trans (h.managers id)
  records := fun id => (h'.records id).trans (h.records id)

theorem Undisturbed.welcoming (h : Undisturbed w w') (hw : w.Welcoming) : w'.Welcoming where
  refusals := h.refusals.trans hw.refusals
  declared := by
    rw [h.bus]
    exact hw.declared

/-- The session with this number has the same records as before. -/
theorem Undisturbed.session (h : Undisturbed w w') {id : Nat} {s : Session}
    (hs : w.sessions.get? id = some s) :
    ∃ s', w'.sessions.get? id = some s' ∧ s'.records = s.records := by
  have hrecords := h.records id
  rw [hs] at hrecords
  exact Option.map_eq_some_iff.1 hrecords

theorem Heard.undisturbed (h : Heard w w') : Undisturbed w w' := by
  obtain ⟨observers, log, undoManagers, sessions, rfl, hquiet, houtline, hbuses⟩ := h
  refine ⟨hquiet, rfl, rfl, rfl, Nat.le_refl _, hbuses, fun id => ?_⟩
  have hrecords : Session.records = Session.records ∘ Session.outline := rfl
  rw [hrecords, ← Option.map_map, ← Option.map_map]
  exact congrArg (Option.map Session.records) (houtline id)

theorem undisturbed_modifySession (h : w.Quiet) (id : Nat) {f : Session → Session}
    (hf : ∀ s, (f s).records = s.records) : Undisturbed w (w.modifySession id f) :=
  ⟨h, rfl, rfl, rfl, Nat.le_refl _, fun _ => rfl, Dict.map_get?_modify hf w.sessions id⟩

theorem undisturbed_interfaceNote (h : w.Quiet) (frontend : Frontend) (note : InterfaceNote) :
    Undisturbed w (w.interfaceNote frontend note) := by
  cases frontend with
  | headless => exact Undisturbed.refl h
  | recording failing => exact ⟨h, rfl, rfl, rfl, Nat.le_refl _, fun _ => rfl, fun _ => rfl⟩

/-! ## Queueing and flushing -/

theorem undisturbed_engine (h : w.Quiet) (engine : Engine EngineListener)
    (hbus : engine.bus = w.engine.bus) : Undisturbed w { w with engine } :=
  ⟨h, rfl, hbus, rfl, Nat.le_refl _, fun _ => rfl, fun _ => rfl⟩

theorem undisturbed_changeReservation (h : w.Quiet) (id : Nat) (p : Proposal)
    (change : SessionCore → StyleId → SessionCore) :
    Undisturbed w (w.changeReservation id p change) := by
  unfold changeReservation
  cases p.reserve with
  | none => exact Undisturbed.refl h
  | some style => exact undisturbed_modifySession h id (by intro s; rfl)

theorem undisturbed_submission : Submission Undisturbed where
  quiet := Undisturbed.quiet
  refl := Undisturbed.refl
  trans := Undisturbed.trans
  flush := fun h => (undisturbed_engine h (drained _) rfl).trans (heard_flush h).undisturbed
  queued := fun h _ => undisturbed_engine h _ rfl
  reserve := fun h id p => undisturbed_changeReservation h id p .reserve
  release := fun h id p => undisturbed_changeReservation h id p .release

theorem undisturbed_submitFor (h : w.Quiet) (id : Nat) (operation : MemberId → Operation) :
    Undisturbed w (w.submitFor conduct id operation).2 := by
  unfold submitFor
  cases w.sessions.get? id with
  | none => exact Undisturbed.refl h
  | some s => exact undisturbed_submission.submit h _

theorem undisturbed_closeEngine (h : w.Quiet) : Undisturbed w (w.closeEngine conduct).2 := by
  unfold closeEngine
  split
  · have hflush := undisturbed_submission.flush h
    refine hflush.trans (undisturbed_engine hflush.quiet _ ?_)
    unfold Engine.finishClose
    split <;> rfl
  · exact Undisturbed.refl h

theorem undisturbed_loadDocument (h : w.Quiet) (files : FileTree) (url : String) :
    Undisturbed w (w.loadDocument files url).2 := by
  unfold loadDocument Engine.load
  cases w.engine.find files url with
  | error cause => exact Undisturbed.refl h
  | ok document => exact undisturbed_engine h _ rfl

/-! ## Sessions -/

theorem undisturbed_setEditing (h : w.Quiet) (id : Nat) (editing : Bool) :
    Undisturbed w (w.setEditing id editing) := by
  unfold setEditing
  cases w.sessions.get? id with
  | none => exact Undisturbed.refl h
  | some s =>
      have hnote := undisturbed_interfaceNote h s.frontend
        (if editing then .startEditing else .endEditing)
      exact hnote.trans (undisturbed_modifySession hnote.quiet id (by intro s; rfl))

theorem undisturbed_dropSession (h : w.Quiet) (id : Nat) : Undisturbed w (w.dropSession id) :=
  undisturbed_modifySession h id (by intro s; rfl)

end Undisturbed

end Coedit.Workspace
