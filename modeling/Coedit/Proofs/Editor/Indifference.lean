import Coedit.Proofs.Session.Indifference
import Coedit.Proofs.Workspace.Attempt

/-!
# The editor does not notice remnants

The editor opens and closes documents alike with remnants and without them. While it closes one,
the session is without an owner, and stays so whatever commands are given meanwhile.
-/

namespace Coedit

open Workspace

namespace Attempt

variable {ε α β : Type} {σ : Remnants} {busy : Nat → Nat}

def Concurs (σ : Remnants) (busy : Nat → Nat) (a : Attempt ε α) : Prop :=
  ∀ w v, Counterpart σ busy w v → Concur σ busy (a.result w) (a.result v)

theorem Concurs.bind {a : Attempt ε α} {next : α → Attempt ε β} (ha : Concurs σ busy a)
    (hnext : ∀ x, Concurs σ busy (next x)) : Concurs σ busy (a >>= next) := by
  intro w v h
  have hfirst := ha w v h
  rw [result_bind, result_bind]
  generalize a.result w = r at hfirst ⊢
  generalize a.result v = r' at hfirst ⊢
  cases hfirst with
  | intro answer hdone =>
      cases answer with
      | ok x => exact hnext x _ _ hdone
      | error cause => exact .intro _ hdone

theorem Concurs.tryCatch {a : Attempt ε α} {handle : ε → Attempt ε α} (ha : Concurs σ busy a)
    (hhandle : ∀ cause, Concurs σ busy (handle cause)) :
    Concurs σ busy (MonadExcept.tryCatch a handle) := by
  intro w v h
  have hfirst := ha w v h
  rw [result_tryCatch, result_tryCatch]
  generalize a.result w = r at hfirst ⊢
  generalize a.result v = r' at hfirst ⊢
  cases hfirst with
  | intro answer hdone =>
      cases answer with
      | ok x => exact .intro _ hdone
      | error cause => exact hhandle cause _ _ hdone

theorem Concurs.pure (x : α) : Concurs σ busy (pure x : Attempt ε α) := fun _ _ h => .intro _ h

theorem Concurs.throw (cause : ε) : Concurs σ busy (throw cause : Attempt ε α) :=
  fun _ _ h => .intro _ h

theorem Concurs.modify {f : Workspace → Workspace}
    (h : ∀ w v, Counterpart σ busy w v → Counterpart σ busy (f w) (f v)) :
    Concurs σ busy (modify f : Attempt ε Unit) :=
  fun w v hw => .intro _ (h w v hw)

theorem Concurs.modifyGet {get : Workspace → α × Workspace}
    (h : ∀ w v, Counterpart σ busy w v → Concur σ busy (get w) (get v)) :
    Concurs σ busy (modifyGet get : Attempt ε α) := by
  intro w v hw
  have hgot := h w v hw
  show Concur σ busy (Except.ok (ε := ε) (get w).1, (get w).2) (Except.ok (get v).1, (get v).2)
  generalize get w = r at hgot ⊢
  generalize get v = r' at hgot ⊢
  cases hgot with
  | intro answer hdone => exact .intro _ hdone

end Attempt

namespace Workspace

open Attempt (Concurs)

section Editor

variable {σ : Remnants} {busy : Nat → Nat} {w v : Workspace} {act : Conduct} {e : Editor}
  {α : Type}

/-! ## Changing the editor -/

/-- The editor takes a session that waits for its owner at most, and an undo manager that is no
remnant. -/
theorem Counterpart.setEditor (h : Counterpart σ busy w v) {e : Editor}
    (hsession : ∀ id, e.session = some id →
      (∃ old, w.editor = some old ∧ old.session = some id) ∨ Awaiting σ w id)
    (hmanager : ∀ id, e.undoManager = some id →
      (∃ old, w.editor = some old ∧ old.undoManager = some id) ∨ σ.spare id = false) :
    Counterpart σ busy { w with editor := some e } { v with editor := some e } := by
  have hproper : Proper σ { w with editor := some e } :=
    { h.proper with
      owned := by
        rintro id (hstandalone | ⟨_, hsame, hid⟩)
        · exact h.proper.owned id (.inl hstandalone)
        · obtain rfl := Option.some.inj hsame
          rcases hsession id hid with hold | hnew
          · exact h.proper.owned id (.inr hold)
          · exact hnew.unclaimed.1
      single := by
        intro _ id hsame hid hstandalone
        obtain rfl := Option.some.inj hsame
        rcases hsession id hid with ⟨old, hold, holdid⟩ | hnew
        · exact h.proper.single old id hold holdid hstandalone
        · exact hnew.unclaimed.2 (.inl hstandalone)
      released := by
        refine fun id hreleased => ⟨(h.proper.released id hreleased).1, ?_⟩
        rintro (hstandalone | ⟨_, hsame, hid⟩)
        · exact (h.proper.released id hreleased).2 (.inl hstandalone)
        · obtain rfl := Option.some.inj hsame
          rcases hsession id hid with hold | hnew
          · exact (h.proper.released id hreleased).2 (.inr hold)
          · rw [hnew.stays] at hreleased
            cases hreleased
      awaited := by
        intro id hawaited
        obtain ⟨hstays, hattached, hunowned⟩ := h.proper.awaited id hawaited
        refine ⟨hstays, hattached, ?_⟩
        rintro (hstandalone | ⟨_, hsame, hid⟩)
        · exact hunowned (.inl hstandalone)
        · obtain rfl := Option.some.inj hsame
          rcases hsession id hid with hold | hnew
          · exact hunowned (.inr hold)
          · rw [hnew.free] at hawaited
            cases hawaited
      spare := by
        refine fun id hspare => ⟨(h.proper.spare id hspare).1, (h.proper.spare id hspare).2.informed,
          ?_, (h.proper.spare id hspare).2.sessions⟩
        intro _ hsame hid
        obtain rfl := Option.some.inj hsame
        rcases hmanager id hid with ⟨old, hold, holdid⟩ | hnew
        · exact (h.proper.spare id hspare).2.editor old hold holdid
        · rw [hspare] at hnew
          cases hnew }
  exact h.alike (f := fun w => { w with editor := some e }) (fun _ _ _ => rfl) hproper
    (h.paced.congr rfl rfl)

theorem Counterpart.modifyEditor (h : Counterpart σ busy w v) {f : Editor → Editor}
    (hsession : ∀ e id, (f e).session = some id → e.session = some id ∨ Awaiting σ w id)
    (hmanager : ∀ e id, (f e).undoManager = some id →
      e.undoManager = some id ∨ σ.spare id = false) :
    Counterpart σ busy (w.modifyEditor f) (v.modifyEditor f) := by
  unfold Workspace.modifyEditor
  rw [h.editor]
  cases he : w.editor with
  | none =>
      have hw : { w with editor := none } = w := by rw [← he]
      have hv : { v with editor := none } = v := by rw [← he, ← h.editor]
      rw [Option.map_none, hw, hv]
      exact h
  | some e =>
      exact h.setEditor
        (fun id hid => (hsession e id hid).imp_left fun hold => ⟨e, he, hold⟩)
        fun id hid => (hmanager e id hid).imp_left fun hold => ⟨e, he, hold⟩

/-- A change that leaves the editor its session and its undo manager. -/
theorem Counterpart.keepEditor (h : Counterpart σ busy w v) {f : Editor → Editor}
    (hsession : ∀ e, (f e).session = e.session)
    (hmanager : ∀ e, (f e).undoManager = e.undoManager) :
    Counterpart σ busy (w.modifyEditor f) (v.modifyEditor f) :=
  h.modifyEditor (fun e _ hid => .inl ((hsession e).symm.trans hid))
    fun e _ hid => .inl ((hmanager e).symm.trans hid)

theorem concurs_advance (action : EditorAction) : Concurs σ busy (advance action) := by
  intro w v h
  simp only [advance, Attempt.result_of, h.editor]
  cases he : w.editor with
  | none => exact .intro _ h
  | some e =>
      simp only
      cases e.state.next action with
      | error fault => exact .intro _ h
      | ok state =>
          exact .intro _ (h.setEditor (fun id hid => .inl ⟨e, he, hid⟩)
            fun id hid => .inl ⟨e, he, hid⟩)

theorem concurs_byEngine {job : Workspace → Except EngineError α × Workspace}
    (h : ∀ w v, Counterpart σ busy w v → Concur σ busy (job w) (job v)) :
    Concurs σ busy (byEngine job) := by
  intro w v hw
  have hjob := h w v hw
  simp only [byEngine, Attempt.result_of]
  generalize job w = r at hjob ⊢
  generalize job v = r' at hjob ⊢
  cases hjob with
  | intro answer hdone => cases answer <;> exact .intro _ hdone

theorem Counterpart.attachToolbar (h : Counterpart σ busy w v) (e : Editor) (attached : Bool) :
    Counterpart σ busy (w.attachToolbar e attached) (v.attachToolbar e attached) :=
  (h.interfaceNote e.frontend (.attached attached)).keepEditor (fun _ => rfl) fun _ => rfl

theorem Counterpart.relayModified (h : Counterpart σ busy w v) (e : Editor) {manager : Nat}
    (hspare : σ.spare manager = false) :
    Counterpart σ busy (w.relayModified e manager) (v.relayModified e manager) := by
  unfold Workspace.relayModified
  rw [h.undoManagers]
  cases w.undoManagers.get? manager with
  | none => exact h
  | some m =>
      simp only
      cases m.subscribe e.id with
      | error cause => exact h
      | ok made =>
          refine (h.withManagers _).modifyEditor (fun _ _ hid => .inl hid) fun _ id hid => ?_
          obtain rfl := Option.some.inj hid
          exact .inr hspare

/-! ## Opening -/

theorem concurs_startUndo (e : Editor) {session : Nat} (hid : σ.ended session = false) :
    Concurs σ busy (startUndo e session) := by
  unfold startUndo
  refine Concurs.bind (.modify fun w v h => h.interfaceNote e.frontend .undoManager) fun _ => ?_
  intro w v h
  have hspare : σ.spare w.nextId = false := (not_ended_of_next h.proper (Nat.le_refl _)).2.2
  have hset : Concur σ busy (w.createUndoManager.2.setUndoManager session w.nextId)
      (v.createUndoManager.2.setUndoManager session w.nextId) :=
    h.createUndoManager.after.setUndoManager hid (Nat.lt_succ_self _) hspare
  show Concur σ busy
    ((byEngine (Workspace.setUndoManager session w.nextId) >>= fun _ =>
      modify (Workspace.relayModified e w.nextId)).result w.createUndoManager.2)
    ((byEngine (Workspace.setUndoManager session v.nextId) >>= fun _ =>
      modify (Workspace.relayModified e v.nextId)).result v.createUndoManager.2)
  rw [h.nextId, Attempt.result_bind, Attempt.result_bind]
  simp only [byEngine, Attempt.result_of]
  generalize Workspace.setUndoManager session w.nextId w.createUndoManager.2 = r at hset ⊢
  generalize Workspace.setUndoManager session w.nextId v.createUndoManager.2 = r' at hset ⊢
  cases hset with
  | intro answer hdone =>
      cases answer with
      | ok _ => exact .intro _ (hdone.relayModified e hspare)
      | error cause => exact .intro _ hdone

theorem concurs_enterDocument (hact : Indifferent act) (e : Editor) {session : Nat}
    (hid : σ.ended session = false) : Concurs σ busy (enterDocument act e session) := by
  unfold enterDocument
  refine Concurs.bind (concurs_byEngine fun w v h =>
    h.subscribe .metadataChanged (.metadataRelay e.id) rfl) fun relay => ?_
  refine Concurs.bind (.modify fun w v h => h.keepEditor (fun _ => rfl) fun _ => rfl) fun _ => ?_
  refine Concurs.bind (concurs_byEngine fun w v h => h.submit hact [.addMember e.member e.user])
    fun _ => ?_
  refine Concurs.bind (.modify fun w v h => h.attachToolbar e true) fun _ => ?_
  refine Concurs.bind (concurs_byEngine fun w v h => h.submitFor hact hid .addCursor) fun _ => ?_
  exact .modify fun w v h => h.setEditing hid true

theorem concurs_equipSession (hact : Indifferent act) (e : Editor) {session : Nat}
    (hid : σ.ended session = false) : Concurs σ busy (equipSession act e session) := by
  unfold equipSession
  split
  · exact (concurs_startUndo e hid).bind fun _ => concurs_enterDocument hact e hid
  · exact concurs_enterDocument hact e hid

/-- The session that is created becomes the editor's once it is equipped, unless that fails. -/
theorem concurs_startSession (hact : Indifferent act) (e : Editor) :
    Concurs σ busy (startSession act e) := by
  intro w v h
  have hcreated := h.createSession
    { member := e.member, fontsCss := e.fontsCss, frontend := e.frontend } e.options.features
  unfold startSession
  rw [Attempt.result_bind, Attempt.result_bind]
  simp only [bySession, Attempt.result_of]
  generalize hr : w.createSession _ _ = r at hcreated ⊢
  generalize v.createSession _ _ = r' at hcreated ⊢
  cases hcreated with
  | intro answer hdone =>
      cases answer with
      | error cause => exact .intro _ hdone
      | ok session =>
          have hwaits := awaiting_createSession h.proper hr
          have hid := σ.not_ended hwaits.stays
          have hequipped := concurs_equipSession hact e (σ := σ.await session) hid _ _
            (hdone.await hwaits)
          simp only [Attempt.result_bind, Attempt.result_tryCatch]
          generalize (equipSession act e session).result _ = r at hequipped ⊢
          generalize (equipSession act e session).result _ = r' at hequipped ⊢
          cases hequipped with
          | intro answer hkept =>
              have hstill := hkept.awaiting hwaits.stays hwaits.free
              cases answer with
              | ok _ =>
                  refine .intro _ (hkept.of_await.modifyEditor (fun _ id hsame => ?_)
                    fun _ _ hsame => .inl hsame)
                  obtain rfl := Option.some.inj hsame
                  exact .inr hstill
              | error cause =>
                  exact .intro _ (hkept.of_await.dropSession hid hwaits.free hstill.unclaimed.2)

/-- The editor no longer hears from its undo manager. -/
theorem Counterpart.endModified (h : Counterpart σ busy w v)
    (manager? subscription? : Option Nat) :
    Counterpart σ busy
      (match manager?, subscription? with
        | some manager, some subscription =>
          { w with undoManagers := w.undoManagers.modify manager (·.unsubscribe subscription) }
        | _, _ => w)
      (match manager?, subscription? with
        | some manager, some subscription =>
          { v with undoManagers := v.undoManagers.modify manager (·.unsubscribe subscription) }
        | _, _ => v) := by
  rw [h.undoManagers]
  split
  · exact h.withManagers _
  · exact h

theorem Counterpart.detachRelays (h : Counterpart σ busy w v) :
    Counterpart σ busy w.detachRelays v.detachRelays := by
  have hunrelayed : ∀ w v, Counterpart σ busy w v → Counterpart σ busy
      (w.modifyEditor fun e => { e with
        undoManager := none, modifiedSubscription := none, metadataSubscription := none })
      (v.modifyEditor fun e => { e with
        undoManager := none, modifiedSubscription := none, metadataSubscription := none }) :=
    fun w v h => h.modifyEditor (fun _ _ hid => .inl hid) fun _ _ hnone => nomatch hnone
  unfold Workspace.detachRelays
  rw [h.editor]
  cases w.editor with
  | none => exact h
  | some e =>
      simp only
      cases e.metadataSubscription with
      | none => exact hunrelayed _ _ (h.endModified _ _)
      | some relay =>
          exact hunrelayed _ _ ((h.unsubscribe .metadataChanged relay).endModified _ _)

/-- The editor's session goes, and nobody has it any more. -/
theorem Counterpart.abandonSession (h : Counterpart σ busy w v) :
    Counterpart σ busy w.abandonSession v.abandonSession := by
  unfold Workspace.abandonSession
  rw [h.editor]
  cases hs : w.editor.bind (·.session) with
  | none => exact h
  | some id =>
      obtain ⟨e, he, hid⟩ := Option.bind_eq_some_iff.1 hs
      have hparted : Counterpart σ busy (w.modifyEditor fun e => { e with session := none })
          (v.modifyEditor fun e => { e with session := none }) :=
        h.modifyEditor (fun _ _ hnone => nomatch hnone) fun _ _ hid => .inl hid
      refine hparted.dropSession (not_ended_of_owns h.proper (.inr ⟨e, he, hid⟩))
        (not_awaited_of_owns h.proper (.inr ⟨e, he, hid⟩)) ?_
      rintro (hstandalone | ⟨e', he', hid'⟩)
      · exact h.proper.single e id he hid hstandalone
      · rw [Workspace.modifyEditor, he] at he'
        obtain rfl := Option.some.inj he'
        cases hid'

theorem Counterpart.abandonOpening (h : Counterpart σ busy w v) (hact : Indifferent act) :
    Counterpart σ busy (w.abandonOpening act) (v.abandonOpening act) :=
  (h.detachRelays.abandonSession.closeEngine hact).after

theorem concurs_openDocument (hact : Indifferent act) (files : FileTree) (e : Editor)
    (url : String) : Concurs σ busy (openDocument act files e url) := by
  unfold openDocument startLoaded
  refine (concurs_advance .open).bind fun _ => ?_
  refine Concurs.bind (Concurs.tryCatch
    (concurs_byEngine fun w v h => h.loadDocument files url) fun cause => ?_) fun _ => ?_
  · exact (concurs_advance .loadFailed).bind fun _ => .throw cause
  refine Concurs.bind (Concurs.tryCatch (concurs_startSession hact e) fun cause => ?_) fun _ =>
    concurs_advance .ready
  refine Concurs.bind (.modify fun w v h => h.abandonOpening hact) fun _ => ?_
  exact (concurs_advance .loadFailed).bind fun _ => .throw cause

/-! ## Closing -/

/-- A session that has no owner is released, and stays so. -/
theorem Counterpart.release (h : Counterpart σ busy w v) {id : Nat} {s : Session}
    (hs : w.sessions.get? id = some s) (hunowned : ¬ w.Owns id) (hawaited : σ.awaited id = false) :
    Counterpart (σ.release id) busy w v where
  same := h.same
  sessions := h.sessions
  gone := h.gone
  log := h.log
  proper :=
    { h.proper.toConsistent with
      watched := h.proper.watched
      released := by
        intro other hother
        rcases Bool.or_eq_true_iff.1 hother with hold | hnew
        · exact h.proper.released other hold
        · obtain rfl := beq_iff_eq.1 hnew
          exact ⟨⟨s, hs⟩, hunowned⟩
      awaited := by
        intro other hother
        refine ⟨Bool.or_eq_false_iff.2 ⟨(h.proper.awaited other hother).1, ?_⟩,
          (h.proper.awaited other hother).2⟩
        rw [beq_eq_false_iff_ne]
        rintro rfl
        cases hawaited.symm.trans hother
      records := h.proper.records
      spare := h.proper.spare }
  paced := ⟨h.paced.reacting, h.paced.idle, h.paced.resting⟩

theorem Counterpart.of_release {id : Nat} (h : Counterpart (σ.release id) busy w v) :
    Counterpart σ busy w v where
  same := h.same
  sessions := h.sessions
  gone := h.gone
  log := h.log
  proper :=
    { h.proper.toConsistent with
      watched := h.proper.watched
      released := fun other hother =>
        h.proper.released other (Bool.or_eq_true_iff.2 (.inl hother))
      awaited := fun other hother => ⟨(Bool.or_eq_false_iff.1 (h.proper.awaited other hother).1).1,
        (h.proper.awaited other hother).2⟩
      records := h.proper.records
      spare := h.proper.spare }
  paced := ⟨h.paced.reacting, h.paced.idle, h.paced.resting⟩

theorem Concur.of_release {id : Nat} {r r' : α × Workspace}
    (h : Concur (σ.release id) busy r r') : Concur σ busy r r' := by
  cases h with
  | intro answer h => exact .intro _ h.of_release

theorem concurs_leaveDocument (hact : Indifferent act) (e : Editor) {session : Nat}
    (hid : σ.ended session = false) (hreleased : σ.released session = true) :
    Concurs σ busy (leaveDocument act e session) := by
  unfold leaveDocument
  refine Concurs.bind (concurs_byEngine fun w v h => h.submitFor hact hid .removeCursor) fun _ => ?_
  refine Concurs.bind (concurs_byEngine fun w v h => h.submit hact [.removeMember e.member])
    fun _ => ?_
  refine Concurs.bind (concurs_byEngine fun w v h => h.closeEngine hact) fun _ => ?_
  refine Concurs.bind (.modify fun w v h => h.detachRelays) fun _ => ?_
  intro w v h
  have hdestroyed := h.destroySession hid hreleased
  simp only [Attempt.result_of]
  generalize w.destroySession session = r at hdestroyed ⊢
  generalize v.destroySession session = r' at hdestroyed ⊢
  cases hdestroyed with
  | intro answer hdone => cases answer <;> exact .intro _ hdone

/-- What closing comes to when the session was released. -/
theorem concurs_parting (hact : Indifferent act) (e : Editor) {session : Nat}
    (hid : σ.ended session = false) (hreleased : σ.released session = true) :
    Concurs σ busy (do
      modify (Workspace.setEditing session false)
      modify (Workspace.attachToolbar e false)
      tryCatch (leaveDocument act e session) fun cause => do
        modify Workspace.detachRelays
        modify (Workspace.report act e.id (.unknownError cause.message))
        modify (Workspace.dropSession session)
        throw cause
      advance .closed) := by
  refine Concurs.bind (.modify fun w v h => h.setEditing hid false) fun _ => ?_
  refine Concurs.bind (.modify fun w v h => h.attachToolbar e false) fun _ => ?_
  refine Concurs.bind (Concurs.tryCatch (concurs_leaveDocument hact e hid hreleased) fun cause => ?_)
    fun _ => concurs_advance .closed
  refine Concurs.bind (.modify fun w v h => h.detachRelays) fun _ => ?_
  refine Concurs.bind (.modify fun w v h => h.report hact e.id (.unknownError cause.message))
    fun _ => ?_
  refine Concurs.bind (.modify fun w v h =>
    h.dropSession hid (not_awaited_of_released h.proper hreleased)
      (h.proper.released session hreleased).2) fun _ => ?_
  exact .throw cause

/-- The editor begins to close its document and lets go of the session. -/
theorem Counterpart.part (h : Counterpart σ busy w v) (he : w.editor = some e)
    (state : EditorState) {session : Nat} (hs : e.session = some session) :
    Counterpart (σ.release session) busy
      (Workspace.modifyEditor (fun e => { e with session := none })
        { w with editor := some { e with state } })
      (Workspace.modifyEditor (fun e => { e with session := none })
        { v with editor := some { e with state } }) := by
  have hclosing : Counterpart σ busy { w with editor := some { e with state } }
      { v with editor := some { e with state } } :=
    h.setEditor (fun id hid => .inl ⟨e, he, hid⟩) fun id hid => .inl ⟨e, he, hid⟩
  have hparted := hclosing.modifyEditor (f := fun e => { e with session := none })
    (fun _ _ hnone => nomatch hnone) fun _ _ hid => .inl hid
  obtain ⟨s, hrecord, -⟩ := h.proper.owned session (.inr ⟨e, he, hs⟩)
  refine hparted.release hrecord ?_ (not_awaited_of_owns h.proper (.inr ⟨e, he, hs⟩))
  rintro (hstandalone | ⟨e', he', hid'⟩)
  · exact h.proper.single e session he hs hstandalone
  · obtain rfl := Option.some.inj he'
    cases hid'

theorem Counterpart.closeDocument (h : Counterpart σ busy w v) (hact : Indifferent act) {e : Editor}
    (he : w.editor = some e) :
    Concur σ busy ((closeDocument act e).result w) ((closeDocument act e).result v) := by
  unfold Workspace.closeDocument
  rw [Attempt.result_bind, Attempt.result_bind]
  simp only [advance, Attempt.result_of, h.editor, he]
  cases e.state.next .close with
  | error fault => exact .intro _ h
  | ok state =>
      simp only
      split
      · exact .intro _ (h.setEditor (fun id hid => .inl ⟨e, he, hid⟩)
          fun id hid => .inl ⟨e, he, hid⟩)
      · rename_i session hs
        have hid := not_ended_of_owns h.proper (.inr ⟨e, he, hs⟩)
        exact (concurs_parting hact e (σ := σ.release session) hid (σ.released_release session) _ _
          (h.part he state hs)).of_release

end Editor

end Workspace

end Coedit
