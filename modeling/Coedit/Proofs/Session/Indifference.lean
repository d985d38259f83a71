import Coedit.Proofs.Workspace.Remnants

/-!
# Sessions do not notice remnants

Sessions are created, used and destroyed alike with remnants and without them: they have the same
numbers, and so have their subscriptions to the engine.
-/

namespace Coedit.Workspace

inductive Concur {α : Type} (σ : Remnants) (busy : Nat → Nat) :
    α × Workspace → α × Workspace → Prop where
  | intro {w v} (answer : α) (h : Counterpart σ busy w v) : Concur σ busy (answer, w) (answer, v)

structure Awaiting (σ : Remnants) (w : Workspace) (id : Nat) : Prop where
  unclaimed : w.Unclaimed id
  stays : σ.released id = false
  free : σ.awaited id = false

section Sessions

variable {σ : Remnants} {busy : Nat → Nat} {w v : Workspace} {act : Conduct}

theorem Concur.after {α : Type} {r r' : α × Workspace} (h : Concur σ busy r r') :
    Counterpart σ busy r.2 r'.2 := by
  cases h with
  | intro answer h => exact h

/-! ## Batches and documents -/

/-- A batch is taken in both, or refused in both for the same reason. -/
theorem Counterpart.take (h : Counterpart σ busy w v) (batch : Batch) :
    (∃ cause, w.take batch = .error cause ∧ v.take batch = .error cause) ∨
      ∃ w' v', w.take batch = .ok w' ∧ v.take batch = .ok v' ∧ Counterpart σ busy w' v' := by
  have hphase : v.engine.phase = w.engine.phase := h.common (·.engine.phase) fun _ _ _ => rfl
  unfold Workspace.take Engine.accept
  rw [hphase]
  cases w.engine.phase with
  | idle | closed => exact .inl ⟨_, rfl, rfl⟩
  | opened =>
      exact .inr ⟨_, _, rfl, rfl, h.withEngine
        (f := fun e =>
          { e with
            phase := .opened
            submitted := e.submitted ++ [batch]
            pending := e.pending ++ [batch] })
        (fun _ _ => rfl) fun _ => rfl⟩

theorem Counterpart.takeFrom (h : Counterpart σ busy w v) (batch : Batch) :
    (∃ cause, w.takeFrom batch = .error cause ∧ v.takeFrom batch = .error cause) ∨
      ∃ w' v', w.takeFrom batch = .ok w' ∧ v.takeFrom batch = .ok v' ∧
        Counterpart σ busy w' v' := by
  have hrefused : v.refused? batch = w.refused? batch :=
    h.common (·.refused? batch) fun _ _ _ => rfl
  unfold Workspace.takeFrom
  rw [hrefused]
  cases w.refused? batch with
  | some op => exact .inl ⟨_, rfl, rfl⟩
  | none => exact h.take batch

theorem Counterpart.enqueue (h : Counterpart σ busy w v) (hact : Indifferent act) (batch : Batch) :
    Concur σ busy (w.enqueue act batch) (v.enqueue act batch) := by
  unfold Workspace.enqueue
  obtain ⟨cause, hw, hv⟩ | ⟨w', v', hw, hv, htaken⟩ := h.take batch
  · rw [hw, hv]
    exact .intro _ h
  · rw [hw, hv]
    exact .intro _ (htaken.followUp hact)

theorem Counterpart.submit (h : Counterpart σ busy w v) (hact : Indifferent act) (batch : Batch) :
    Concur σ busy (w.submit act batch) (v.submit act batch) := by
  unfold Workspace.submit
  obtain ⟨cause, hw, hv⟩ | ⟨w', v', hw, hv, htaken⟩ := h.takeFrom batch
  · rw [hw, hv]
    exact .intro _ h
  · rw [hw, hv]
    exact .intro _ (htaken.followUp hact)

theorem Counterpart.loadDocument (h : Counterpart σ busy w v) (files : FileTree) (url : String) :
    Concur σ busy (w.loadDocument files url) (v.loadDocument files url) := by
  have hfind : v.engine.find files url = w.engine.find files url :=
    h.common (·.engine.find files url) fun _ _ _ => rfl
  unfold Workspace.loadDocument Engine.load
  rw [hfind]
  cases w.engine.find files url with
  | error cause => exact .intro _ h
  | ok document =>
      exact .intro _ (h.withEngine (f := (·.openDocument document)) (fun _ _ => rfl)
        fun _ => rfl)

theorem Counterpart.finishClose (h : Counterpart σ busy w v) :
    Concur σ busy (w.engine.finishClose.1, { w with engine := w.engine.finishClose.2 })
      (v.engine.finishClose.1, { v with engine := v.engine.finishClose.2 }) := by
  have hfailure : v.engine.closeFailure = w.engine.closeFailure :=
    h.common (·.engine.closeFailure) fun _ _ _ => rfl
  unfold Engine.finishClose
  rw [hfailure]
  cases w.engine.closeFailure with
  | some reason =>
      exact .intro _ (h.withEngine (f := fun e => { e with closeFailure := none })
        (fun _ _ => rfl) fun _ => rfl)
  | none =>
      exact .intro _ (h.withEngine
        (f := fun e => { e with phase := .closed, closeFailure := none })
        (fun _ _ => rfl) fun _ => rfl)

theorem Counterpart.closeEngine (h : Counterpart σ busy w v) (hact : Indifferent act) :
    Concur σ busy (w.closeEngine act) (v.closeEngine act) := by
  have hopen : v.engine.isOpen = w.engine.isOpen := h.common (·.engine.isOpen) fun _ _ _ => rfl
  unfold Workspace.closeEngine
  rw [hopen]
  split
  · exact (h.flush hact).finishClose
  · exact .intro _ h

/-! ## Subscriptions to the engine -/

/-- Whoever is no remnant subscribes alike in both. -/
theorem Counterpart.subscribeEngine (h : Counterpart σ busy w v) (signal : EngineSignal)
    (listener : EngineListener) (hlistener : σ.holds listener = false) :
    (∃ cause, w.engine.subscribe signal listener = .error cause ∧
        v.engine.subscribe signal listener = .error cause) ∨
      ∃ id e e', w.engine.subscribe signal listener = .ok (id, e) ∧
        v.engine.subscribe signal listener = .ok (id, e') ∧
        Counterpart σ busy { w with engine := e } { v with engine := e' } := by
  have hsubscribe := SignalBus.subscribe_without w.engine.bus signal hlistener
  unfold Engine.subscribe
  rw [h.bus, hsubscribe]
  cases w.engine.bus.subscribe signal listener with
  | error cause => exact .inl ⟨_, rfl, rfl⟩
  | ok made =>
      refine .inr ⟨_, _, _, rfl, rfl, ?_⟩
      obtain ⟨sessions, log, rfl⟩ := h.same
      exact ⟨⟨sessions, log, rfl⟩, h.sessions, h.gone, h.log, h.proper.congr rfl rfl rfl rfl rfl,
        h.paced.congr rfl rfl⟩

theorem Counterpart.subscribe (h : Counterpart σ busy w v) (signal : EngineSignal)
    (listener : EngineListener) (hlistener : σ.holds listener = false) :
    Concur σ busy (w.subscribe signal listener) (v.subscribe signal listener) := by
  have hrefused : v.refusals.signals.contains signal.name =
      w.refusals.signals.contains signal.name :=
    h.common (·.refusals.signals.contains signal.name) fun _ _ _ => rfl
  unfold Workspace.subscribe
  rw [hrefused]
  split
  · exact .intro _ h
  · obtain ⟨cause, hw, hv⟩ | ⟨id, e, e', hw, hv, hmade⟩ := h.subscribeEngine signal listener hlistener
    · rw [hw, hv]
      exact .intro _ h
    · rw [hw, hv]
      exact .intro _ hmade

theorem Counterpart.unsubscribe (h : Counterpart σ busy w v) (signal : EngineSignal) (id : Nat) :
    Counterpart σ busy (w.unsubscribe signal id) (v.unsubscribe signal id) := by
  have hbus := SignalBus.unsubscribe_without w.engine.bus σ.holds signal id
  obtain ⟨sessions, log, rfl⟩ := h.same
  refine ⟨⟨sessions, log, ?_⟩, h.sessions, h.gone, h.log, h.proper.congr rfl rfl rfl rfl rfl,
    h.paced.congr rfl rfl⟩
  exact congrArg (fun bus => { w with engine := { w.engine with bus }, sessions, log }) hbus

theorem Counterpart.unsubscribeAll (h : Counterpart σ busy w v) (made : List (EngineSignal × Nat)) :
    Counterpart σ busy (made.foldl (fun w s => w.unsubscribe s.1 s.2) w)
      (made.foldl (fun w s => w.unsubscribe s.1 s.2) v) :=
  h.foldl fun s _ _ _ h => h.unsubscribe s.1 s.2

/-! ## Creating sessions and undo managers -/

/-- A number is given out. -/
theorem Counterpart.number (h : Counterpart σ busy w v) :
    Counterpart σ busy { w with nextId := w.nextId + 1 } { v with nextId := v.nextId + 1 } :=
  h.alike (f := fun w => { w with nextId := w.nextId + 1 }) (fun _ _ _ => rfl) h.proper.number
    h.paced.number

theorem Counterpart.createUndoManager (h : Counterpart σ busy w v) :
    Concur σ busy w.createUndoManager v.createUndoManager := by
  have hnumbered := h.number.withManagers (w.undoManagers.insert w.nextId {})
  unfold Workspace.createUndoManager
  rw [h.nextId, h.undoManagers]
  rw [h.nextId] at hnumbered
  exact .intro _ hnumbered

theorem Counterpart.subscribeSession (h : Counterpart σ busy w v) {id : Nat}
    (hid : σ.ended id = false) (made : List (EngineSignal × Nat)) (signals : List EngineSignal) :
    Concur σ busy (subscribeSession id made signals w) (subscribeSession id made signals v) := by
  induction signals generalizing made w v with
  | nil => exact .intro _ h
  | cons signal rest ih =>
      have hs := h.subscribe signal (.session id) hid
      unfold Workspace.subscribeSession
      generalize w.subscribe signal (.session id) = r at hs ⊢
      generalize v.subscribe signal (.session id) = r' at hs ⊢
      cases hs with
      | intro answer hmade =>
          cases answer with
          | ok subscription => exact ih hmade _
          | error cause => exact .intro _ (hmade.unsubscribeAll made)

/-- A new session takes its place in both. -/
theorem Counterpart.insertSession (h : Counterpart σ busy w v) {id : Nat} (hnumber : id < w.nextId)
    (hended : σ.ended id = false) (hbusy : busy id = 0) {s : Session} (hattached : s.attached = true)
    (hreacting : s.reacting = 0) (hmanager : s.input.undoManager = none)
    (hbus : s.bus.subscriptions = []) :
    Counterpart σ busy { w with sessions := w.sessions.insert id s }
      { v with sessions := v.sessions.insert id s } := by
  have hproper := h.proper.insertSession hnumber hended hattached hmanager hbus
  have hpaced : Paced σ busy { w with sessions := w.sessions.insert id s } :=
    h.paced.insertSession (hreacting.trans hbusy.symm)
  have hsessions := h.sessions
  have hgone := h.gone
  obtain ⟨sessions, log, rfl⟩ := h.same
  refine ⟨⟨_, log, rfl⟩, fun k hk => ?_, fun k hk => ?_, h.log, hproper, hpaced⟩
  · simp only [Dict.get?_insert]
    rw [hsessions k hk]
  · have hother : id ≠ k := by
      rintro rfl
      rw [hended] at hk
      cases hk
    simp only [Dict.get?_insert, if_neg hother]
    exact hgone k hk

theorem Counterpart.createSession (h : Counterpart σ busy w v) (spec : SessionSpec)
    (features : FeatureSet) :
    Concur σ busy (w.createSession spec features) (v.createSession spec features) := by
  have hnoted := h.interfaceNote spec.frontend (.components spec.member features)
  unfold Workspace.createSession
  generalize w.interfaceNote spec.frontend (.components spec.member features) = w' at hnoted ⊢
  generalize v.interfaceNote spec.frontend (.components spec.member features) = v' at hnoted ⊢
  have hended := (not_ended_of_next hnoted.proper (Nat.le_refl _)).1
  have hs := hnoted.number.subscribeSession hended [] relayedSignals
  simp only
  rw [hnoted.nextId] at hs ⊢
  generalize hr : Workspace.subscribeSession w'.nextId [] relayedSignals
    { w' with nextId := w'.nextId + 1 } = r at hs ⊢
  generalize Workspace.subscribeSession w'.nextId [] relayedSignals
    { v' with nextId := w'.nextId + 1 } = r' at hs ⊢
  cases hs with
  | intro answer hmade =>
      cases answer with
      | error cause => exact .intro _ hmade
      | ok made =>
          obtain ⟨engine, rfl, -⟩ := subscribeSession_spec hr
          exact .intro _ (hmade.insertSession (Nat.lt_succ_self _) hended
            (hnoted.paced.idle _ (Nat.le_refl _)) rfl rfl rfl rfl)

/-- The session that was created waits for its owner. -/
theorem awaiting_createSession (h : Proper σ w) {spec : SessionSpec} {features : FeatureSet}
    {id : Nat} {w' : Workspace} (hcreate : w.createSession spec features = (.ok id, w')) :
    Awaiting σ w' id := by
  obtain ⟨engine, made, log, rfl, rfl, -⟩ := createSession_spec hcreate
  refine ⟨⟨⟨newSessionState spec made, ?_, rfl⟩, fun howns => ?_⟩,
    (not_ended_of_next h (Nat.le_refl _)).2.1, not_awaited_of_next h (Nat.le_refl _)⟩
  · simp only [Dict.get?_insert, if_true]
  · obtain ⟨s, hs, -⟩ := h.owned w.nextId howns
    exact Nat.lt_irrefl _ (h.known _ s hs)

/-! ## Edits -/

/-- A reservation changes alike in both. -/
theorem Counterpart.changeReservation (h : Counterpart σ busy w v) {id : Nat}
    (hid : σ.ended id = false) (proposal : Proposal)
    (change : SessionCore → StyleId → SessionCore) :
    Counterpart σ busy (w.changeReservation id proposal change)
      (v.changeReservation id proposal change) := by
  unfold Workspace.changeReservation
  cases proposal.reserve with
  | none => exact h
  | some style => exact h.keepSession hid fun _ => ⟨rfl, rfl, rfl, List.Subset.refl _⟩

theorem Counterpart.queueEdit (h : Counterpart σ busy w v) {id : Nat} (hid : σ.ended id = false)
    (e : Edit) : Concur σ busy (w.queueEdit id e) (v.queueEdit id e) := by
  unfold Workspace.queueEdit
  rw [h.session hid, h.replica]
  cases w.sessions.get? id with
  | none => exact .intro _ h
  | some s =>
      simp only
      cases s.core.propose w.engine.replica e with
      | error cause => exact .intro _ h
      | ok proposal =>
          simp only
          split
          · exact .intro _ h
          · have hreserved := h.changeReservation hid proposal .reserve
            obtain ⟨cause, hw, hv⟩ | ⟨w', v', hw, hv, htaken⟩ := hreserved.takeFrom proposal.batch
            · rw [hw, hv]
              exact .intro _ (hreserved.changeReservation hid proposal .release)
            · rw [hw, hv]
              exact .intro _ htaken

theorem Counterpart.edit (h : Counterpart σ busy w v) (hact : Indifferent act) {id : Nat}
    (hid : σ.ended id = false) (e : Edit) :
    Concur σ busy (w.edit act id e) (v.edit act id e) := by
  have hqueued := h.queueEdit hid e
  unfold Workspace.edit
  generalize w.queueEdit id e = r at hqueued ⊢
  generalize v.queueEdit id e = r' at hqueued ⊢
  cases hqueued with
  | intro answer hmade =>
      cases answer with
      | error cause => exact .intro _ hmade
      | ok answered =>
          obtain ⟨answer, queued⟩ := answered
          cases queued with
          | true => exact .intro _ (hmade.followUp hact)
          | false => exact .intro _ hmade

theorem Counterpart.submitFor (h : Counterpart σ busy w v) (hact : Indifferent act) {id : Nat}
    (hid : σ.ended id = false) (operation : MemberId → Operation) :
    Concur σ busy (w.submitFor act id operation) (v.submitFor act id operation) := by
  unfold Workspace.submitFor
  rw [h.session hid]
  cases w.sessions.get? id with
  | none => exact .intro _ h
  | some s => exact h.submit hact [operation s.core.member]

/-! ## The input controller -/

theorem Counterpart.dropUndoSubscription (h : Counterpart σ busy w v) {id : Nat}
    (hid : σ.ended id = false) :
    Counterpart σ busy (w.dropUndoSubscription id) (v.dropUndoSubscription id) := by
  unfold Workspace.dropUndoSubscription
  rw [h.session hid]
  cases (w.sessions.get? id).bind (·.input.undoSubscription) with
  | none => exact h
  | some subscription =>
      exact (h.unsubscribe .undoStackChanged subscription).keepSession hid fun _ => ⟨rfl, rfl, rfl, List.Subset.refl _⟩

/-- A session is given an undo manager that is no remnant. -/
theorem Counterpart.setUndoManager (h : Counterpart σ busy w v) {id manager : Nat}
    (hid : σ.ended id = false) (hnumber : manager < w.nextId) (hspare : σ.spare manager = false) :
    Concur σ busy (w.setUndoManager id manager) (v.setUndoManager id manager) := by
  have hdropped : (w.dropUndoSubscription id).nextId = w.nextId := by
    unfold Workspace.dropUndoSubscription
    split <;> rfl
  have hs := (h.dropUndoSubscription hid).subscribe .undoStackChanged
    (.undoManager manager) hspare
  have hkept : ((w.dropUndoSubscription id).subscribe .undoStackChanged
      (.undoManager manager)).2.nextId = w.nextId := by
    obtain ⟨cause, hcause⟩ | hok :=
      subscribe_cases .undoStackChanged (.undoManager manager) (w.dropUndoSubscription id)
    · rw [hcause]
      exact hdropped
    · rw [hok]
      exact hdropped
  unfold Workspace.setUndoManager
  generalize (w.dropUndoSubscription id).subscribe .undoStackChanged (.undoManager manager) = r
    at hs hkept ⊢
  generalize (v.dropUndoSubscription id).subscribe .undoStackChanged (.undoManager manager) = r'
    at hs ⊢
  cases hs with
  | intro answer hmade =>
      cases answer with
      | error cause => exact .intro _ hmade
      | ok subscription =>
          refine .intro _ (hmade.changed
            (hmade.proper.changeSession hid (fun _ hs => hs) (fun _ _ => rfl) ?_
              fun _ _ _ hsub => .inl hsub)
            (hmade.paced.changeSession id fun _ => rfl))
          intro s given hgiven
          obtain rfl := Option.some.inj hgiven
          exact .inr ⟨Nat.lt_of_lt_of_eq hnumber hkept.symm, hspare⟩

theorem Counterpart.setEditing (h : Counterpart σ busy w v) {id : Nat} (hid : σ.ended id = false)
    (editing : Bool) :
    Counterpart σ busy (w.setEditing id editing) (v.setEditing id editing) := by
  unfold Workspace.setEditing
  rw [h.session hid]
  cases w.sessions.get? id with
  | none => exact h
  | some s => exact (h.interfaceNote s.frontend _).keepSession hid fun _ => ⟨rfl, rfl, rfl, List.Subset.refl _⟩

/-! ## Destroying sessions -/

theorem Counterpart.tearDownPart (h : Counterpart σ busy w v) (frontend : Frontend) (part : String)
    {release : Workspace → Workspace}
    (hrelease : ∀ w v, Counterpart σ busy w v → Counterpart σ busy (release w) (release v)) :
    Concur σ busy (tearDownPart frontend part release w)
      (tearDownPart frontend part release v) := by
  have hnoted := h.interfaceNote frontend (.tornDown part)
  unfold Workspace.tearDownPart
  cases frontend with
  | headless => exact .intro _ (hrelease _ _ hnoted)
  | recording failing =>
      simp only
      split
      · exact .intro _ hnoted
      · exact .intro _ (hrelease _ _ hnoted)

theorem Counterpart.tearDownAll (h : Counterpart σ busy w v)
    {actions : List (TeardownAction Workspace)}
    (hactions : ∀ action ∈ actions, ∀ w v, Counterpart σ busy w v →
      Concur σ busy (action w) (action v)) :
    Concur σ busy (Coedit.tearDownAll actions w) (Coedit.tearDownAll actions v) := by
  induction actions generalizing w v with
  | nil => exact .intro _ h
  | cons action rest ih =>
      have hfirst := hactions action List.mem_cons_self w v h
      unfold Coedit.tearDownAll
      generalize action w = r at hfirst ⊢
      generalize action v = r' at hfirst ⊢
      cases hfirst with
      | intro answer hdone =>
          cases answer with
          | ok _ => exact ih hdone fun action hmem => hactions action (List.mem_cons_of_mem _ hmem)
          | error cause => exact .intro _ hdone

theorem Counterpart.releaseSignals (h : Counterpart σ busy w v) {id : Nat}
    (hid : σ.ended id = false) :
    Counterpart σ busy (w.releaseSignals id) (v.releaseSignals id) := by
  unfold Workspace.releaseSignals
  rw [h.session hid]
  cases w.sessions.get? id with
  | none => exact h
  | some s =>
      exact (h.unsubscribeAll s.subscriptions).keepSession hid fun _ =>
        ⟨rfl, rfl, rfl, List.nil_subset _⟩

/-- A session that has no owner and is to get none is let go. -/
theorem Counterpart.dropSession (h : Counterpart σ busy w v) {id : Nat} (hid : σ.ended id = false)
    (hawaited : σ.awaited id = false) (hunowned : ¬ w.Owns id) :
    Counterpart σ busy (w.dropSession id) (v.dropSession id) := by
  have hnobody : w.Owns id ∨ σ.awaited id = true →
      ∀ s : Session, ({ s with attached := false } : Session).attached = s.attached := by
    rintro (howns | hwaits)
    · exact absurd howns hunowned
    · rw [hawaited] at hwaits
      cases hwaits
  exact h.changed
    (h.proper.changeSession hid (fun _ hs => nomatch hs) hnobody (fun _ _ huses => .inl huses)
      fun _ _ _ hsub => .inl hsub)
    (h.paced.changeSession id fun _ => rfl)

/-- A session is to get an owner, or no longer is. -/
theorem Counterpart.await (h : Counterpart σ busy w v) {id : Nat} (hid : Awaiting σ w id) :
    Counterpart (σ.await id) busy w v where
  same := h.same
  sessions := h.sessions
  gone := h.gone
  log := h.log
  proper :=
    { h.proper.toConsistent with
      watched := h.proper.watched
      released := h.proper.released
      awaited := by
        intro other hother
        rcases Bool.or_eq_true_iff.1 hother with hold | hnew
        · exact h.proper.awaited other hold
        · obtain rfl := beq_iff_eq.1 hnew
          exact ⟨hid.stays, hid.unclaimed⟩
      records := h.proper.records
      spare := h.proper.spare }
  paced := ⟨h.paced.reacting, h.paced.idle, h.paced.resting⟩

theorem Counterpart.of_await {id : Nat} (h : Counterpart (σ.await id) busy w v) :
    Counterpart σ busy w v where
  same := h.same
  sessions := h.sessions
  gone := h.gone
  log := h.log
  proper :=
    { h.proper.toConsistent with
      watched := h.proper.watched
      released := h.proper.released
      awaited := fun other hother => h.proper.awaited other (Bool.or_eq_true_iff.2 (.inl hother))
      records := h.proper.records
      spare := h.proper.spare }
  paced := ⟨h.paced.reacting, h.paced.idle, h.paced.resting⟩

/-- Nobody took the session that is to get an owner. -/
theorem Counterpart.awaiting {id : Nat} (h : Counterpart (σ.await id) busy w v)
    (hstays : σ.released id = false) (hfree : σ.awaited id = false) : Awaiting σ w id :=
  ⟨(h.proper.awaited id (σ.awaited_await id)).2, hstays, hfree⟩

theorem Counterpart.destroySession (h : Counterpart σ busy w v) {id : Nat}
    (hid : σ.ended id = false) (hreleased : σ.released id = true) :
    Concur σ busy (w.destroySession id) (v.destroySession id) := by
  unfold Workspace.destroySession
  rw [h.session hid]
  cases w.sessions.get? id with
  | none => exact .intro _ h
  | some s =>
      have htorn : Concur σ busy (Coedit.tearDownAll (sessionTeardown id s.frontend) w)
          (Coedit.tearDownAll (sessionTeardown id s.frontend) v) := by
        refine h.tearDownAll fun action hmem w v hw => ?_
        rcases List.mem_append.1 hmem with hpart | hlast
        · obtain ⟨part, -, rfl⟩ := List.mem_map.1 hpart
          refine hw.tearDownPart s.frontend part fun w v hw => ?_
          split
          · exact (hw.dropUndoSubscription hid).keepSession hid fun _ => ⟨rfl, rfl, rfl, List.Subset.refl _⟩
          · exact hw
        · rw [List.mem_singleton.1 hlast]
          exact .intro _ (hw.releaseSignals hid)
      simp only
      generalize Coedit.tearDownAll (sessionTeardown id s.frontend) w = r at htorn ⊢
      generalize Coedit.tearDownAll (sessionTeardown id s.frontend) v = r' at htorn ⊢
      cases htorn with
      | intro answer hdone =>
          exact .intro _ (hdone.dropSession hid (not_awaited_of_released hdone.proper hreleased)
            (hdone.proper.released id hreleased).2)

theorem Counterpart.askSession (h : Counterpart σ busy w v) (s : Session) (query : SessionQuery) :
    v.askSession s query = w.askSession s query := by
  obtain ⟨sessions, log, rfl⟩ := h.same
  cases query <;> rfl

end Sessions

end Coedit.Workspace
