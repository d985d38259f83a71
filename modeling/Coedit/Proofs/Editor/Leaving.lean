import Coedit.Proofs.Editor.Partners

/-!
# How closing ends

Whether a document can be closed depends on three things: the engine must be open, no failure
may have been ordered, and no part of the session may refuse to be torn down. The steps of closing
are followed here one by one, with what each of them makes of the engine and with the unknown
errors that are reported.
-/

namespace Coedit

/-- The unknown errors that were reported, with the labels of those who heard of them. -/
def Selection.unknownErrors : Selection (String × String) := fun label event =>
  match event with
  | .editor (.unknownError text) => some (label, text)
  | _ => none

theorem Selection.direct_unknownErrors : unknownErrors.Direct :=
  ⟨fun _ _ => rfl, fun _ _ _ => rfl, fun _ _ => rfl⟩

def Frontend.refuses : Frontend → String → Bool
  | .headless, _ => false
  | .recording failing, part => failing.contains part

namespace Workspace

open Attempt (Triple)
open Selection (unknownErrors)

abbrev Silent (w w' : Workspace) : Prop := Adds unknownErrors [] w w'

section Silent

variable {w w' : Workspace}

theorem silent_flush (h : w.Quiet) : Silent w (w.flush conduct) := by
  have hflush := adds_flush Selection.direct_unknownErrors h
  have hnone : w.noticesOf unknownErrors = fun _ => [] := by
    funext event
    exact notices_of_ignored (fun _ => rfl) _
  rw [hnone, List.flatMap_eq_nil_iff.2 fun _ _ => rfl] at hflush
  exact hflush

theorem silent_changeReservation (h : w.Quiet) (id : Nat) (p : Proposal)
    (change : SessionCore → StyleId → SessionCore) :
    Silent w (w.changeReservation id p change) := by
  obtain ⟨sessions, heq⟩ := changeReservation_eq id p change w
  rw [heq]
  exact adds_of_unnoted h rfl rfl

theorem silent_submission : Submission Silent where
  quiet := Adds.quiet
  refl := Adds.refl
  trans := Adds.then
  flush := silent_flush
  queued := fun h _ => adds_of_unnoted h rfl rfl
  reserve := fun h id p => silent_changeReservation h id p .reserve
  release := fun h id p => silent_changeReservation h id p .release

theorem noted_interfaceNote {α : Type} (select : Selection α) (frontend : Frontend)
    (note : InterfaceNote) (w : Workspace) :
    (w.interfaceNote frontend note).noted select = w.noted select := by
  cases frontend with
  | headless => rfl
  | recording failing =>
      simp only [noted, interfaceNote, record, List.filterMap_append, List.filterMap_cons,
        List.filterMap_nil, List.append_nil]

theorem silent_interfaceNote (h : w.Quiet) (frontend : Frontend) (note : InterfaceNote) :
    Silent w (w.interfaceNote frontend note) := by
  refine adds_of_unnoted h ?_ (noted_interfaceNote unknownErrors frontend note w)
  cases frontend <;> rfl

theorem silent_setEditing (h : w.Quiet) (id : Nat) (editing : Bool) :
    Silent w (w.setEditing id editing) := by
  unfold setEditing
  cases w.sessions.get? id with
  | none => exact Adds.refl h
  | some s =>
      have hnote := silent_interfaceNote h s.frontend
        (if editing then .startEditing else .endEditing)
      exact hnote.then (adds_of_unnoted hnote.quiet rfl rfl)

theorem silent_closeEngine (h : w.Quiet) : Silent w (w.closeEngine conduct).2 := by
  unfold closeEngine
  split
  · have hflush := silent_flush h
    exact hflush.then (adds_of_unnoted hflush.quiet rfl rfl)
  · exact Adds.refl h

/-! ## The engine's door -/

def door (w : Workspace) : Phase × Option String := (w.engine.phase, w.engine.closeFailure)

theorem door_flush (h : w.Quiet) : (w.flush conduct).door = w.door := by
  have hengine : (w.flush conduct).engine = drained w.engine := (heard_flush h).engine
  unfold door
  rw [hengine]
  rfl

theorem door_changeReservation (id : Nat) (p : Proposal)
    (change : SessionCore → StyleId → SessionCore) (w : Workspace) :
    (w.changeReservation id p change).door = w.door := by
  obtain ⟨sessions, heq⟩ := changeReservation_eq id p change w
  rw [heq]
  rfl

theorem door_submission : Submission fun w w' => w'.Quiet ∧ w'.door = w.door where
  quiet := fun h => h.1
  refl := fun h => ⟨h, rfl⟩
  trans := fun h h' => ⟨h'.1, h'.2.trans h.2⟩
  flush := fun h => ⟨(heard_flush h).quiet, door_flush h⟩
  queued := fun h _ => ⟨h, rfl⟩
  reserve := fun h id p =>
    ⟨(undisturbed_changeReservation h id p .reserve).quiet, door_changeReservation id p .reserve _⟩
  release := fun h id p =>
    ⟨(undisturbed_changeReservation h id p .release).quiet, door_changeReservation id p .release _⟩

/-- An engine that is not open accepts nothing. -/
theorem submit_of_not_opened (hwelcoming : w.Welcoming) (h : w.engine.phase ≠ .opened)
    (batch : Batch) : ∃ cause, w.submit conduct batch = (.error cause, w) := by
  have hrefused : w.refused? batch = none := by
    unfold refused?
    rw [hwelcoming.refusals]
    simp
  unfold submit takeFrom take Engine.accept
  rw [hrefused]
  cases hphase : w.engine.phase with
  | idle => exact ⟨_, rfl⟩
  | closed => exact ⟨_, rfl⟩
  | opened => exact absurd hphase h

end Silent

/-! ## Steps before the engine is closed -/

/-- Batches were accepted since `start`; subscriptions and papers are as they were, and no unknown
error was reported. What happened to the editor is left open. -/
structure Along (start : Workspace) (accepted : List Batch) (w : Workspace) : Prop where
  refusals : w.refusals = start.refusals
  bus : w.engine.bus = start.engine.bus
  nextId : start.nextId ≤ w.nextId
  papers : ∀ id,
    (w.sessions.get? id).map Session.papers = (start.sessions.get? id).map Session.papers
  submitted : w.engine.submitted = start.engine.submitted ++ accepted
  upshot : w.engine.upshot =
    accepted.foldl (fun r batch => (r.applyBatch batch).1) start.engine.upshot
  silent : Silent start w

structure Scene (start : Workspace) (accepted : List Batch) (cur : Editor)
    (door : Phase × Option String) (w : Workspace) : Prop where
  along : Along start accepted w
  editor : w.editor = some cur
  door : w.door = door

section Scene

variable {start w w' : Workspace} {accepted later : List Batch} {cur : Editor}
  {phase : Phase} {failure : Option String} {door : Phase × Option String}
  {E : EditorError → Workspace → Prop}

theorem Scene.quiet (h : Scene start accepted cur door w) : w.Quiet := h.along.silent.quiet

theorem Scene.welcoming (h : Scene start accepted cur door w) (hstart : start.Welcoming) :
    w.Welcoming :=
  ⟨h.along.refusals.trans hstart.refusals, by rw [h.along.bus]; exact hstart.declared⟩

theorem Along.proceeds (h : Along start accepted w) (hp : Proceeds later w w')
    (hsilent : Silent w w') : Along start (accepted ++ later) w' where
  refusals := hp.refusals.trans h.refusals
  bus := hp.bus.trans h.bus
  nextId := Nat.le_trans h.nextId hp.nextId
  papers := fun id => (hp.papers id).trans (h.papers id)
  submitted := by rw [hp.submitted, h.submitted, List.append_assoc]
  upshot := by rw [hp.upshot, h.upshot, List.foldl_append]
  silent := h.silent.then hsilent

theorem Scene.proceeds (h : Scene start accepted cur door w) (hp : Proceeds later w w')
    (hsilent : Silent w w') (hdoor : w'.door = w.door) :
    Scene start (accepted ++ later) cur door w' :=
  ⟨h.along.proceeds hp hsilent, hp.editor.trans h.editor, hdoor.trans h.door⟩

theorem Scene.idle (h : Scene start accepted cur door w) (hp : Proceeds [] w w')
    (hsilent : Silent w w') (hdoor : w'.door = w.door) : Scene start accepted cur door w' := by
  have hscene := h.proceeds hp hsilent hdoor
  rw [List.append_nil] at hscene
  exact hscene

/-- Only the editor changed. -/
theorem Scene.congr (h : Scene start accepted cur door w) {cur' : Editor}
    (heditor : w' = { w with editor := some cur' }) : Scene start accepted cur' door w' := by
  subst heditor
  have hsilent : Silent w { w with editor := some cur' } := adds_of_unnoted h.quiet rfl rfl
  exact ⟨⟨h.along.refusals, h.along.bus, h.along.nextId, h.along.papers, h.along.submitted,
    h.along.upshot, h.along.silent.then hsilent⟩, rfl, h.door⟩

theorem Scene.modifyEditor (h : Scene start accepted cur door w) (f : Editor → Editor) :
    Scene start accepted (f cur) door (w.modifyEditor f) := by
  refine h.congr ?_
  rw [Workspace.modifyEditor, h.editor]
  rfl

theorem Scene.attachToolbar (h : Scene start accepted cur door w) (e : Editor)
    (attached : Bool) : Scene start accepted { cur with toolbar := { attached } } door
      (w.attachToolbar e attached) := by
  have hnoted := h.idle (proceeds_interfaceNote h.quiet e.frontend (.attached attached))
    (silent_interfaceNote h.quiet e.frontend (.attached attached))
    (by unfold Workspace.door; rw [engine_interfaceNote])
  exact hnoted.modifyEditor fun e => { e with toolbar := e.toolbar.attach attached }

theorem Scene.setEditing (h : Scene start accepted cur door w) (id : Nat) (editing : Bool) :
    Scene start accepted cur door (w.setEditing id editing) := by
  refine h.idle (proceeds_setEditing h.quiet id editing) (silent_setEditing h.quiet id editing) ?_
  unfold Workspace.door Workspace.setEditing
  cases w.sessions.get? id with
  | none => rfl
  | some s => simp only [modifySession, engine_interfaceNote]

/-- A batch is accepted just if the engine is open; otherwise nothing happens. -/
theorem scene_submit (hstart : start.Welcoming) (batch : Batch) :
    Triple (Scene start accepted cur (phase, failure)) (byEngine (submit conduct batch))
      (fun _ w => phase = .opened ∧ Scene start (accepted ++ [batch]) cur (phase, failure) w)
      (fun _ w => phase ≠ .opened ∧ Scene start accepted cur (phase, failure) w) := by
  intro w hw
  have hphase : w.engine.phase = phase := congrArg Prod.fst hw.door
  have hwelcoming := hw.welcoming hstart
  rw [byEngine, Attempt.result_of]
  by_cases hopened : phase = .opened
  · have hnow : w.engine.phase = .opened := hphase.trans hopened
    have haccepted := submit_of_opened hwelcoming hnow batch
    have hproceeds := proceeds_submit hw.quiet hwelcoming hnow batch
    have hsilent := silent_submission.submit hw.quiet batch
    have hdoor := (door_submission.submit hw.quiet batch).2
    cases hr : w.submit conduct batch with
    | mk answer w' =>
        rw [hr] at haccepted hproceeds hsilent hdoor
        have hok : answer = .ok () := haccepted
        rw [hok]
        exact ⟨hopened, hw.proceeds hproceeds hsilent hdoor⟩
  · obtain ⟨cause, hcause⟩ := submit_of_not_opened hwelcoming (hphase ▸ hopened) batch
    rw [hcause]
    exact ⟨hopened, hw⟩

/-- An open engine closes unless a failure was ordered; the queue is applied in any case. -/
theorem scene_closeEngine :
    Triple (Scene start accepted cur (.opened, failure)) (byEngine (closeEngine conduct))
      (fun _ w => failure = none ∧ Scene start accepted cur (.closed, none) w ∧
        w.engine.pending = [])
      (fun _ w => failure ≠ none ∧ Scene start accepted cur (.opened, none) w) := by
  intro w hw
  have hphase : w.engine.phase = .opened := congrArg Prod.fst hw.door
  have hfailure : w.engine.closeFailure = failure := congrArg Prod.snd hw.door
  have hopen : w.engine.isOpen = true := by simp [Engine.isOpen, hphase]
  have hproceeds := proceeds_closeEngine hw.quiet
  have hsilent := silent_closeEngine hw.quiet
  have hflushed : (w.flush conduct).engine = drained w.engine := (heard_flush hw.quiet).engine
  have hfail : (w.flush conduct).engine.closeFailure = failure := by
    rw [hflushed]
    exact hfailure
  have hopened : (w.flush conduct).engine.phase = .opened := by
    rw [hflushed]
    exact hphase
  have hempty : (w.flush conduct).engine.pending = [] := by
    rw [hflushed]
    rfl
  have halong := hw.along.proceeds hproceeds hsilent
  rw [List.append_nil] at halong
  have heditor := hproceeds.editor.trans hw.editor
  rw [byEngine, Attempt.result_of]
  unfold closeEngine Engine.finishClose at halong heditor ⊢
  rw [hopen] at halong heditor ⊢
  simp only [if_true, hfail] at halong heditor ⊢
  cases failure with
  | none => exact ⟨rfl, ⟨halong, heditor, rfl⟩, hempty⟩
  | some reason =>
      refine ⟨by simp, halong, heditor, ?_⟩
      unfold Workspace.door
      simp only [hopened]

end Scene

end Workspace

end Coedit
