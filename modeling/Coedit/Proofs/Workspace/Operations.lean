import Coedit.Proofs.Workspace.Attempt

/-!
# Rules for the editor's operations

An operation of the editor is a sequence of steps, some of which may fail, and a way of giving up.
The rule of an operation puts together what is known of its steps, and looks into none of them.
Whatever is shown of an operation elsewhere is shown of its steps, and follows by its rule.
-/

namespace Coedit.Workspace

open Attempt (Triple)

variable {act : Conduct} {e : Editor} {session : Nat} {faults : InputFaults} {w : Workspace}
  {A B C D G P Q U : Workspace → Prop} {E : EditorError → Workspace → Prop}

/-! ## The lifecycle -/

theorem result_advance_of_legal {action : EditorAction} {state : EditorState}
    (heditor : w.editor = some e) (hnext : e.state.next? action = some state) :
    (advance action).result w = (.ok (), w.modifyEditor fun e => { e with state }) := by
  simp only [advance, Attempt.result_of, heditor, EditorState.next, hnext, Workspace.modifyEditor,
    Option.map_some]

/-- What is not allowed changes nothing. -/
theorem result_advance_of_illegal {action : EditorAction} (heditor : w.editor = some e)
    (hnext : e.state.next? action = none) : (advance action).result w =
      (.error (.illegalTransition { state := e.state, action }), w) := by
  simp only [advance, Attempt.result_of, heditor, EditorState.next, hnext]

theorem state_of_ready {s state : EditorState} (h : s.next? .ready = some state) :
    state = .editing := by
  cases s <;> first | exact (Option.some.inj h).symm | cases h

/-- The editor takes the step or, if it is refused it, stays as it is. -/
theorem advance_rule {action : EditorAction}
    (hstep : ∀ w e state, P w → w.editor = some e → e.state.next? action = some state →
      Q (w.modifyEditor fun e => { e with state }))
    (hrefused : ∀ cause w, P w → E cause w) : Triple P (advance action) (fun _ => Q) E := by
  intro w hw
  cases he : w.editor with
  | none =>
      simp only [advance, Attempt.result_of, he]
      exact hrefused _ w hw
  | some e =>
      cases hnext : e.state.next? action with
      | none =>
          rw [result_advance_of_illegal he hnext]
          exact hrefused _ w hw
      | some state =>
          rw [result_advance_of_legal he hnext]
          exact hstep w e state hw he hnext

theorem result_openDocument_of_illegal {files : FileTree} {url : String}
    (heditor : w.editor = some e) (hnext : e.state.next? .open = none) :
    (openDocument act files e url faults).result w =
      (.error (.illegalTransition { state := e.state, action := .open }), w) := by
  unfold openDocument
  exact Attempt.result_bind_of_error (result_advance_of_illegal heditor hnext)

theorem result_closeDocument_of_illegal (heditor : w.editor = some e)
    (hnext : e.state.next? .close = none) : (closeDocument act e).result w =
      (.error (.illegalTransition { state := e.state, action := .close }), w) := by
  unfold closeDocument
  exact Attempt.result_bind_of_error (result_advance_of_illegal heditor hnext)

theorem result_destroyEditor_of_illegal (heditor : w.editor = some e)
    (hnext : e.state.next? .destroy = none) : (destroyEditor e).result w =
      (.error (.illegalTransition { state := e.state, action := .destroy }), w) := by
  unfold destroyEditor
  exact Attempt.result_bind_of_error (result_advance_of_illegal heditor hnext)

/-! ## Starting a session -/

/-- The editor is subscribed to its undo manager, or nothing happens. -/
theorem relayModified_cases (e : Editor) (manager : Nat) (w : Workspace) :
    w.relayModified e manager = w ∨ ∃ m subscription, w.relayModified e manager =
      { w with undoManagers := w.undoManagers.insert manager m }.modifyEditor fun e =>
        { e with undoManager := some manager, modifiedSubscription := some subscription } := by
  unfold relayModified
  split
  · exact .inl rfl
  · split
    · exact .inl rfl
    · exact .inr ⟨_, _, rfl⟩

/-- An input controller does as it should, or nothing. -/
theorem triple_unlessFault {f : Workspace → Except EngineError Unit × Workspace}
    {fault : Option EngineError} {R : Unit → Workspace → Prop} (h : Triple P (byEngine f) R E)
    (hfault : ∀ cause w, fault = some cause → P w → E (.engine cause) w) :
    Triple P (byEngine (unlessFault fault f)) R E := by
  cases fault with
  | none => exact h
  | some cause => exact fun w hw => hfault cause w rfl hw

theorem startUndo_rule {B C : Nat → Workspace → Prop}
    (hnote : ∀ w, P w → A (w.interfaceNote e.frontend .undoManager))
    (hcreate : ∀ w, A w → B w.createUndoManager.1 w.createUndoManager.2)
    (hset : ∀ manager, Triple (B manager)
      (byEngine (unlessFault faults.undoManager (setUndoManager session manager)))
      (fun _ => C manager) E)
    (hrelay : ∀ manager w, C manager w → Q (w.relayModified e manager)) :
    Triple P (startUndo e session faults) (fun _ => Q) E := by
  unfold startUndo
  exact .bind (.modify hnote) fun _ => .bind (.modifyGet hcreate) fun manager =>
    (hset manager).bind fun _ => .modify (hrelay manager)

theorem enterDocument_rule {A B C D G : Nat → Workspace → Prop}
    (hrelay : Triple P (byEngine (subscribe .metadataChanged (.metadataRelay e.id))) A E)
    (hrecord : ∀ relay w, A relay w →
      B relay (w.modifyEditor fun e => { e with metadataSubscription := some relay }))
    (hintroduce : ∀ relay, Triple (B relay) (byEngine (submit act [.addMember e.member e.user]))
      (fun _ => C relay) E)
    (hattach : ∀ relay w, C relay w → D relay (w.attachToolbar e true))
    (hcursor : ∀ relay, Triple (D relay)
      (byEngine (unlessFault faults.cursor (insertCursor act session))) (fun _ => G relay) E)
    (hediting : ∀ relay w, G relay w → Q (w.setEditing session true)) :
    Triple P (enterDocument act e session faults) (fun _ => Q) E := by
  unfold enterDocument
  exact hrelay.bind fun relay => .bind (.modify (hrecord relay)) fun _ =>
    (hintroduce relay).bind fun _ => .bind (.modify (hattach relay)) fun _ =>
      (hcursor relay).bind fun _ => .modify (hediting relay)

theorem equipSession_rule
    (hundo : e.options.features.undoRedo = true →
      Triple P (startUndo e session faults) (fun _ => A) E)
    (hplain : ∀ w, e.options.features.undoRedo = false → P w → A w)
    (henter : Triple A (enterDocument act e session faults) (fun _ => Q) E) :
    Triple P (equipSession act e session faults) (fun _ => Q) E := by
  unfold equipSession
  cases hfeature : e.options.features.undoRedo with
  | true => exact (hundo hfeature).bind fun _ => henter
  | false => exact fun w hw => henter w (hplain w hfeature hw)

/-- A session that could not be equipped is dropped. -/
theorem startSession_rule {A B : Nat → Workspace → Prop}
    {F : Nat → EditorError → Workspace → Prop}
    (hcreate : Triple P (bySession (createSession
      { member := e.member, fontsCss := e.fontsCss, frontend := e.frontend } e.options.features))
      A E)
    (hequip : ∀ session, Triple (A session) (equipSession act e session faults)
      (fun _ => B session) (F session))
    (hdrop : ∀ session cause w, F session cause w → E cause (w.dropSession session))
    (hjoin : ∀ session w, B session w →
      Q (w.modifyEditor fun e => { e with session := some session })) :
    Triple P (startSession act e faults) (fun _ => Q) E := by
  unfold startSession
  refine hcreate.bind fun session => .bind (Q := fun _ => B session)
    ((hequip session).tryCatch fun cause w hw => ?_) fun _ => .modify (hjoin session)
  exact hdrop session cause w hw

/-! ## Opening and closing a document -/

/-- A document that could not be loaded, and one on which no session could be started, end the
loading in the same way. -/
theorem openDocument_rule {files : FileTree} {url : String}
    (hopen : Triple P (advance .open) (fun _ => A) E)
    (hload : Triple A (byEngine (loadDocument files url)) (fun _ => B) (fun _ => U))
    (hstart : Triple B (startSession act e faults) (fun _ => C) (fun _ => D))
    (habandon : ∀ w, D w → U (w.abandonOpening act))
    (hfailed : ∀ cause, Triple U (advance .loadFailed) (fun _ => E cause) E)
    (hready : Triple C (advance .ready) (fun _ => Q) E) :
    Triple P (openDocument act files e url faults) (fun _ => Q) E := by
  have hgiveUp {R : Unit → Workspace → Prop} (cause : EditorError) : Triple U
      (do advance .loadFailed
          throw cause : Attempt EditorError Unit) R E :=
    (hfailed cause).bind fun _ => .throw fun _ hw => hw
  unfold openDocument startLoaded
  refine hopen.bind fun _ => (hload.tryCatch hgiveUp).bind fun _ => ?_
  exact (hstart.tryCatch fun cause => .bind (.modify habandon) fun _ => hgiveUp cause).bind
    fun _ => hready

theorem leaveDocument_rule
    (hcursor : Triple P (byEngine (removeCursor act session)) (fun _ => A) E)
    (hmember : Triple A (byEngine (submit act [.removeMember e.member])) (fun _ => B) E)
    (hclose : Triple B (byEngine (closeEngine act)) (fun _ => C) E)
    (hdetach : ∀ w, C w → D w.detachRelays)
    (hdestroy : ∀ w, D w → match w.destroySession session with
      | (.ok (), w') => Q w'
      | (.error cause, w') => E (.teardown cause) w') :
    Triple P (leaveDocument act e session) (fun _ => Q) E := by
  unfold leaveDocument
  refine hcursor.bind fun _ => hmember.bind fun _ => hclose.bind fun _ =>
    .bind (Q := fun _ => D) (.modify hdetach) fun _ => ?_
  intro w hw
  have hdone := hdestroy w hw
  rw [Attempt.result_of]
  cases hr : w.destroySession session with
  | mk answer w' =>
      rw [hr] at hdone
      cases answer <;> exact hdone

/-- Nobody has to take a closing editor without a session out of the document. -/
theorem closeDocument_rule_of_none (hsession : e.session = none)
    (hadvance : Triple P (advance .close) (fun _ => A) E)
    (hnone : ∀ w, A w → E .noSession w) : Triple P (closeDocument act e) (fun _ => Q) E := by
  unfold closeDocument
  rw [hsession]
  exact hadvance.bind fun _ => .throw hnone

theorem closeDocument_rule {F : EditorError → Workspace → Prop} (hsession : e.session = some session)
    (hadvance : Triple P (advance .close) (fun _ => A) E)
    (hforget : ∀ w, A w → B (w.modifyEditor fun e => { e with session := none }))
    (hstop : ∀ w, B w → C (w.setEditing session false))
    (hdetach : ∀ w, C w → D (w.attachToolbar e false))
    (hleave : Triple D (leaveDocument act e session) (fun _ => G) F)
    (habort : ∀ cause w, F cause w → E cause
      ((w.detachRelays.report act e.id (.unknownError cause.message)).dropSession session))
    (hclosed : Triple G (advance .closed) (fun _ => Q) E) :
    Triple P (closeDocument act e) (fun _ => Q) E := by
  unfold closeDocument
  rw [hsession]
  refine hadvance.bind fun _ => .bind (.modify hforget) fun _ => .bind (.modify hstop) fun _ =>
    .bind (.modify hdetach) fun _ => .bind (hleave.tryCatch fun cause w hw => ?_) fun _ => hclosed
  exact habort cause w hw

/-! ## Destroying the editor -/

theorem tearDownAll_keeps {actions : List (TeardownAction Workspace)}
    (h : ∀ action ∈ actions, ∀ w, P w → P (action w).2) {w : Workspace} (hw : P w) :
    P (tearDownAll actions w).2 := by
  induction actions generalizing w with
  | nil => exact hw
  | cons action rest ih =>
      have hfirst := h action List.mem_cons_self w hw
      unfold tearDownAll
      cases ha : action w with
      | mk answer w' =>
          rw [ha] at hfirst
          cases answer with
          | ok _ => exact ih (fun other hmem => h other (List.mem_cons_of_mem _ hmem)) hfirst
          | error cause => exact hfirst

/-- A part with nothing to release. -/
theorem tearDownPart_idle (frontend : Frontend) (part : String) (w : Workspace) :
    (tearDownPart frontend part (fun w => w) w).2 = w.interfaceNote frontend (.tornDown part) := by
  unfold tearDownPart
  cases frontend with
  | headless => rfl
  | recording failing => simp only; split <;> rfl

/-- The editor is destroyed, also if a part of its chrome refuses. -/
theorem destroyEditor_rule
    (hadvance : Triple P (advance .destroy) (fun _ => A) E)
    (hpart : ∀ part w, A w → A (w.interfaceNote e.frontend (.tornDown part)))
    (hclear : ∀ w, A w → Q (w.modifyEditor fun e => { e with bus := e.bus.clear }))
    (hrefused : ∀ cause w, Q w → E (.teardown cause) w) :
    Triple P (destroyEditor e) (fun _ => Q) E := by
  have hteardown : ∀ w, A w → A (tearDownAll (chromeParts.map fun part =>
      tearDownPart e.frontend part fun w => w) w).2 := by
    refine fun w hw => tearDownAll_keeps (fun action hmem w hw => ?_) hw
    obtain ⟨part, -, rfl⟩ := List.mem_map.1 hmem
    rw [tearDownPart_idle]
    exact hpart part w hw
  unfold destroyEditor
  refine hadvance.bind fun _ => .bind (Q := fun _ => A) (.modifyGet hteardown) fun result =>
    .bind (Q := fun _ => Q) (.modify hclear) fun _ => ?_
  cases result with
  | ok _ => exact .pure fun _ hw => hw
  | error cause => exact .throw (hrefused cause)

end Coedit.Workspace
