import Coedit.Proofs.Editor.Runs
import Coedit.Proofs.Session.Staleness

/-!
# Work that goes on

Between opening and closing a document batches are accepted and applied. What the document will
be when the queue has been applied depends on the accepted batches alone, and not on how much
of the queue was applied so far. All the while a session keeps its papers: its member, its user
interface, and the record of its subscriptions.
-/

namespace Coedit

def Engine.upshot {η : Type} (e : Engine η) : Replica :=
  e.pending.foldl (fun r batch => (r.applyBatch batch).1) e.replica

def Session.papers (s : Session) : MemberId × Frontend × List (EngineSignal × Nat) :=
  (s.core.member, s.frontend, s.records)

namespace Workspace

structure Steady (w w' : Workspace) : Prop extends Undisturbed w w' where
  papers : ∀ id, (w'.sessions.get? id).map Session.papers = (w.sessions.get? id).map Session.papers

structure Proceeds (accepted : List Batch) (w w' : Workspace) : Prop extends Steady w w' where
  submitted : w'.engine.submitted = w.engine.submitted ++ accepted
  upshot : w'.engine.upshot =
    accepted.foldl (fun r batch => (r.applyBatch batch).1) w.engine.upshot

section Proceeds

variable {accepted later : List Batch} {w w' w'' : Workspace}

theorem Steady.refl (h : w.Quiet) : Steady w w := ⟨Undisturbed.refl h, fun _ => rfl⟩

theorem Steady.trans (h : Steady w w') (h' : Steady w' w'') : Steady w w'' where
  toUndisturbed := h.toUndisturbed.trans h'.toUndisturbed
  papers := fun id => (h'.papers id).trans (h.papers id)

theorem Proceeds.trans (h : Proceeds accepted w w') (h' : Proceeds later w' w'') :
    Proceeds (accepted ++ later) w w'' where
  toSteady := h.toSteady.trans h'.toSteady
  submitted := by rw [h'.submitted, h.submitted, List.append_assoc]
  upshot := by rw [h'.upshot, h.upshot, List.foldl_append]

/-- Nothing was accepted. -/
theorem Steady.proceeds (h : Steady w w') (hsubmitted : w'.engine.submitted = w.engine.submitted)
    (hupshot : w'.engine.upshot = w.engine.upshot) : Proceeds [] w w' :=
  ⟨h, by rw [hsubmitted, List.append_nil], hupshot⟩

theorem Steady.idle (h : Steady w w') (hengine : w'.engine = w.engine) : Proceeds [] w w' :=
  h.proceeds (by rw [hengine]) (by rw [hengine])

theorem Proceeds.refl (h : w.Quiet) : Proceeds [] w w := (Steady.refl h).idle rfl

/-! ## What others hear -/

theorem Heard.steady (h : Heard w w') : Steady w w' := by
  have hundisturbed := h.undisturbed
  obtain ⟨observers, log, undoManagers, sessions, rfl, hquiet, houtline, -⟩ := h
  refine ⟨hundisturbed, fun id => ?_⟩
  have hpapers : Session.papers = Session.papers ∘ Session.outline := rfl
  rw [hpapers, ← Option.map_map, ← Option.map_map]
  exact congrArg (Option.map Session.papers) (houtline id)

theorem Told.proceeds (h : Told w w') : Proceeds [] w w' := h.heard.steady.idle h.heard.engine

theorem steady_modifySession (h : w.Quiet) (id : Nat) {f : Session → Session}
    (hf : ∀ s, (f s).papers = s.papers) : Steady w (w.modifySession id f) := by
  exact ⟨undisturbed_modifySession h id fun s => congrArg (·.2.2) (hf s),
    Dict.map_get?_modify hf w.sessions id⟩

theorem steady_interfaceNote (h : w.Quiet) (frontend : Frontend) (note : InterfaceNote) :
    Steady w (w.interfaceNote frontend note) := by
  refine ⟨undisturbed_interfaceNote h frontend note, ?_⟩
  cases frontend <;> exact fun _ => rfl

theorem proceeds_interfaceNote (h : w.Quiet) (frontend : Frontend) (note : InterfaceNote) :
    Proceeds [] w (w.interfaceNote frontend note) :=
  (steady_interfaceNote h frontend note).idle (engine_interfaceNote frontend note w)

theorem proceeds_setEditing (h : w.Quiet) (id : Nat) (editing : Bool) :
    Proceeds [] w (w.setEditing id editing) := by
  unfold setEditing
  cases w.sessions.get? id with
  | none => exact Proceeds.refl h
  | some s =>
      have hnote := proceeds_interfaceNote h s.frontend
        (if editing then .startEditing else .endEditing)
      exact hnote.trans ((steady_modifySession hnote.quiet id (by intro s; rfl)).idle rfl)

theorem proceeds_dropSession (h : w.Quiet) (id : Nat) : Proceeds [] w (w.dropSession id) :=
  (steady_modifySession h id (by intro s; rfl)).idle rfl

/-! ## Queueing and flushing -/

theorem steady_engine (h : w.Quiet) (engine : Engine EngineListener)
    (hbus : engine.bus = w.engine.bus) : Steady w { w with engine } :=
  ⟨undisturbed_engine h engine hbus, fun _ => rfl⟩

theorem proceeds_flush (h : w.Quiet) : Proceeds [] w (w.flush conduct) := by
  have hheard := heard_flush h
  have hdrained : Proceeds [] w { w with engine := drained w.engine } :=
    (steady_engine h (drained w.engine) rfl).proceeds rfl rfl
  exact hdrained.trans (hheard.steady.idle hheard.engine)

theorem proceeds_queued (h : w.Quiet) (batch : Batch) :
    Proceeds [batch] w { w with engine := Agenda.queued w.engine batch } where
  toSteady := steady_engine h (Agenda.queued w.engine batch) rfl
  submitted := rfl
  upshot := List.foldl_append

theorem proceeds_changeReservation (h : w.Quiet) (id : Nat) (p : Proposal)
    (change : SessionCore → StyleId → SessionCore)
    (hchange : ∀ s style, (change s style).member = s.member) :
    Proceeds [] w (w.changeReservation id p change) := by
  unfold changeReservation
  cases p.reserve with
  | none => exact Proceeds.refl h
  | some style =>
      refine (steady_modifySession h id fun s => ?_).idle rfl
      simp only [Session.papers, Session.records, hchange]

def Continues (w w' : Workspace) : Prop := ∃ accepted, Proceeds accepted w w'

theorem Continues.trans (h : Continues w w') (h' : Continues w' w'') : Continues w w'' := by
  obtain ⟨accepted, hproceeds⟩ := h
  obtain ⟨later, hproceeds'⟩ := h'
  exact ⟨accepted ++ later, hproceeds.trans hproceeds'⟩

theorem Continues.quiet (h : Continues w w') : w'.Quiet := by
  obtain ⟨accepted, hproceeds⟩ := h
  exact hproceeds.quiet

theorem continues_submission : Submission Continues where
  quiet := Continues.quiet
  refl := fun h => ⟨[], Proceeds.refl h⟩
  trans := Continues.trans
  flush := fun h => ⟨[], proceeds_flush h⟩
  queued := fun h batch => ⟨[batch], proceeds_queued h batch⟩
  reserve := fun h id p =>
    ⟨[], proceeds_changeReservation h id p .reserve fun s style => (alike_reserve s style).member⟩
  release := fun h id p =>
    ⟨[], proceeds_changeReservation h id p .release fun s style => (alike_release s style).member⟩

theorem proceeds_followUp (h : w.Quiet) : Proceeds [] w (w.followUp conduct) := by
  unfold followUp
  split
  · exact proceeds_flush h
  · exact Proceeds.refl h

/-- An engine with an open document accepts the batch that is submitted. -/
theorem proceeds_submit (h : w.Quiet) (hwelcoming : w.Welcoming)
    (hopened : w.engine.phase = .opened) (batch : Batch) :
    Proceeds [batch] w (w.submit conduct batch).2 := by
  have hqueued := proceeds_queued h batch
  have haccepted := submit_of_opened hwelcoming hopened batch
  unfold submit at haccepted ⊢
  cases ht : w.takeFrom batch with
  | error cause =>
      rw [ht] at haccepted
      cases haccepted
  | ok w' =>
      obtain rfl := takeFrom_eq ht
      exact hqueued.trans (proceeds_followUp hqueued.quiet)

theorem proceeds_closeEngine (h : w.Quiet) : Proceeds [] w (w.closeEngine conduct).2 := by
  unfold closeEngine
  split
  · have hflush := proceeds_flush h
    have hfinished : Proceeds [] (w.flush conduct)
        { w.flush conduct with engine := (w.flush conduct).engine.finishClose.2 } := by
      refine (steady_engine hflush.quiet _ ?_).proceeds ?_ ?_
      all_goals
        unfold Engine.finishClose
        split <;> rfl
    exact hflush.trans hfinished
  · exact Proceeds.refl h

theorem continues_submitFor (h : w.Quiet) (id : Nat) (operation : MemberId → Operation) :
    Continues w (w.submitFor conduct id operation).2 := by
  unfold submitFor
  cases w.sessions.get? id with
  | none => exact ⟨[], Proceeds.refl h⟩
  | some s => exact continues_submission.submit h _

end Proceeds

end Workspace

end Coedit
