import Coedit.Proofs.Session.Creation
import Coedit.Proofs.Workspace.Twins

/-!
# Sessions of twins

Sessions are created, used and destroyed alike in twins. A new session has the same number on both
sides, and its subscriptions to the engine have numbers that correspond.
-/

namespace Coedit

namespace Workspace

section Sessions

variable {σ : Comparison} {f : Frame} {w w' : Workspace} {act : Conduct}

/-! ## Creating sessions and undo managers -/

theorem Twin.nextId (h : Twin σ f w w') : w.nextId = w'.nextId := by
  obtain ⟨p, rfl⟩ := h.same
  rfl

theorem SessionsTwin.insert {next id : Nat} {sessions sessions' : Dict Nat Session}
    (h : SessionsTwin σ next sessions sessions') (hfirst : σ.first ≤ id) (hnext : id < next)
    {s : Session} (hs : s.input.undoManager = none) :
    SessionsTwin σ next (sessions.insert id (s.renumber σ.engine)) (sessions'.insert id s) where
  recent := by
    intro other hother
    rw [Dict.get?_insert, Dict.get?_insert]
    split
    · rfl
    · exact h.recent other hother
  old := by
    intro other s' manager hother hs'
    rw [Dict.get?_insert, if_neg (by omega)] at hs'
    exact h.old other s' manager hother hs'
  bounded := by
    refine Dict.forall_insert ⟨hfirst, hnext, fun manager hmanager => ?_⟩ h.bounded
    rw [hs] at hmanager
    cases hmanager

theorem Twin.insertSession (h : Twin σ f w w') {id : Nat} (hfirst : σ.first ≤ id)
    (hnext : id < w'.nextId) {s : Session} (hs : s.input.undoManager = none) :
    Twin σ f { w with sessions := w.sessions.insert id (s.renumber σ.engine) }
      { w' with sessions := w'.sessions.insert id s } := by
  obtain ⟨p, rfl⟩ := h.same
  exact ⟨⟨{ p with sessions := p.sessions.insert id (s.renumber σ.engine) }, rfl⟩, h.bus,
    h.sessions.insert hfirst hnext hs, h.undoManagers, h.editor, h.quiet, h.frame, h.first⟩

/-- A number is given out on both sides. -/
theorem Twin.number (h : Twin σ f w w') :
    Twin σ f { w with nextId := w.nextId + 1 } { w' with nextId := w'.nextId + 1 } := by
  obtain ⟨p, rfl⟩ := h.same
  refine ⟨⟨p, rfl⟩, h.bus, ⟨h.sessions.recent, h.sessions.old, fun id s hs => ?_⟩,
    ⟨h.undoManagers.recent, fun id m hm => Nat.lt_succ_of_lt (h.undoManagers.bounded id m hm)⟩,
    h.editor, h.quiet, h.frame, Nat.le_succ_of_le h.first⟩
  obtain ⟨hfirst, hnext, hmanager⟩ := h.sessions.bounded id s hs
  exact ⟨hfirst, Nat.lt_succ_of_lt hnext, fun manager hs =>
    ⟨(hmanager manager hs).1, Nat.lt_succ_of_lt (hmanager manager hs).2⟩⟩

theorem Twin.createUndoManager (h : Twin σ f w w') :
    Twin σ f w.createUndoManager.2 w'.createUndoManager.2 := by
  have hmade := h.number.insertManager (Nat.lt_succ_self w'.nextId) {}
  unfold Workspace.createUndoManager
  rw [h.nextId] at hmade ⊢
  exact hmade

def SameRecords (σ : Comparison) (made made' : List (EngineSignal × Nat)) : Prop :=
  made = made'.map fun record => (record.1, σ.engine.old record.2)

theorem Twin.unsubscribeAll (h : Twin σ f w w') {made made' : List (EngineSignal × Nat)}
    (hmade : SameRecords σ made made') :
    Twin σ f (made.foldl (fun w record => w.unsubscribe record.1 record.2) w)
      (made'.foldl (fun w record => w.unsubscribe record.1 record.2) w') := by
  rw [hmade, List.foldl_map]
  exact h.foldl fun (record : EngineSignal × Nat) _ _ _ hw => hw.unsubscribe record.1 record.2

theorem Twin.subscribeSession (h : Twin σ f w w') {id : Nat} (hid : σ.first ≤ id)
    {made made' : List (EngineSignal × Nat)} (hmade : SameRecords σ made made')
    (signals : List EngineSignal) :
    Answers (SameRecords σ) σ f (subscribeSession id made signals w)
      (subscribeSession id made' signals w') := by
  induction signals generalizing made made' w w' with
  | nil => exact .ok hmade h
  | cons signal rest ih =>
      have hs := h.subscribe signal (.session id) hid
      unfold Workspace.subscribeSession
      generalize w.subscribe signal (.session id) = r at hs ⊢
      generalize w'.subscribe signal (.session id) = r' at hs ⊢
      cases hs with
      | ok hnumber hw =>
          refine ih hw ?_
          rw [SameRecords, hmade, hnumber, List.map_append]
          rfl
      | error hw => exact .error (hw.unsubscribeAll hmade)

def InUse (σ : Comparison) (id id' : Nat) : Prop := id = id' ∧ σ.first ≤ id'

theorem Twin.createSession (h : Twin σ f w w') (spec : SessionSpec) (features : FeatureSet) :
    Answers (InUse σ) σ f (w.createSession spec features) (w'.createSession spec features) := by
  have hnoted := h.interfaceNote spec.frontend (.components spec.member features)
  unfold Workspace.createSession
  generalize w.interfaceNote spec.frontend (.components spec.member features) = v at hnoted ⊢
  generalize w'.interfaceNote spec.frontend (.components spec.member features) = v' at hnoted ⊢
  have hnone : SameRecords σ [] [] := rfl
  have hs := hnoted.number.subscribeSession hnoted.first hnone relayedSignals
  simp only [hnoted.nextId] at hs ⊢
  generalize Workspace.subscribeSession v'.nextId [] relayedSignals
    { v with nextId := v'.nextId + 1 } = r at hs ⊢
  generalize hr' : Workspace.subscribeSession v'.nextId [] relayedSignals
    { v' with nextId := v'.nextId + 1 } = r' at hs ⊢
  cases hs with
  | error hw => exact .error hw
  | ok hmade hw =>
      obtain ⟨engine, rfl, -⟩ := subscribeSession_spec hr'
      rw [hmade]
      exact .ok ⟨rfl, hnoted.first⟩
        (hw.insertSession hnoted.first (Nat.lt_succ_self _) (s := newSessionState spec _) rfl)

/-- A reservation changes alike on both sides. -/
theorem Twin.changeReservation (h : Twin σ f w w') {id : Nat} (hid : σ.first ≤ id)
    (proposal : Proposal) (change : SessionCore → StyleId → SessionCore) :
    Twin σ f (w.changeReservation id proposal change)
      (w'.changeReservation id proposal change) := by
  unfold Workspace.changeReservation
  cases proposal.reserve with
  | none => exact h
  | some style => exact h.modifySession hid (fun _ => rfl) fun _ => rfl

theorem Twin.queueEdit (h : Twin σ f w w') {id : Nat} (hid : σ.first ≤ id) (e : Edit) :
    Answers Eq σ f (w.queueEdit id e) (w'.queueEdit id e) := by
  unfold Workspace.queueEdit
  rw [h.session hid, h.replica]
  cases w'.sessions.get? id with
  | none => exact .ok rfl h
  | some s =>
      simp only [Option.map_some, Session.core_renumber]
      cases s.core.propose w'.engine.replica e with
      | error cause => exact .error h
      | ok proposal =>
          simp only
          split
          · exact .ok rfl h
          · have hreserved := h.changeReservation hid proposal .reserve
            obtain ⟨cause, hw, hw'⟩ | ⟨v, v', hw, hw', hv⟩ := hreserved.takeFrom proposal.batch
            · rw [hw, hw']
              exact .error (hreserved.changeReservation hid proposal .release)
            · rw [hw, hw']
              exact .ok rfl hv

theorem Twin.edit (h : Twin σ f w w') {id : Nat} (hid : σ.first ≤ id) (e : Edit) :
    Answers Eq σ f (w.edit act id e) (w'.edit act id e) := by
  have hqueued := h.queueEdit hid e
  unfold Workspace.edit
  generalize w.queueEdit id e = r at hqueued ⊢
  generalize w'.queueEdit id e = r' at hqueued ⊢
  cases hqueued with
  | error hw => exact .error hw
  | ok hsame hw =>
      rename_i a a' v v'
      subst hsame
      obtain ⟨answer, queued⟩ := a
      cases queued with
      | true => exact .ok rfl hw.followUp
      | false => exact .ok rfl hw

/-! ## The input controller -/

theorem Twin.dropUndoSubscription (h : Twin σ f w w') {id : Nat} (hid : σ.first ≤ id) :
    Twin σ f (w.dropUndoSubscription id) (w'.dropUndoSubscription id) := by
  unfold Workspace.dropUndoSubscription
  rw [h.session hid]
  cases w'.sessions.get? id with
  | none => exact h
  | some s =>
      have hrecord : (s.renumber σ.engine).input.undoSubscription =
          s.input.undoSubscription.map σ.engine.old := rfl
      simp only [Option.map_some, Option.bind_some, hrecord]
      cases s.input.undoSubscription with
      | none => exact h
      | some subscription =>
          exact (h.unsubscribe .undoStackChanged subscription).modifySession hid (fun _ => rfl)
            fun _ => rfl

theorem Twin.setUndoManager (h : Twin σ f w w') {id manager : Nat} (hid : σ.first ≤ id)
    (hfirst : σ.first ≤ manager) (hnext : manager < w'.nextId) :
    Answers Eq σ f (w.setUndoManager id manager) (w'.setUndoManager id manager) := by
  have hdropped : (w'.dropUndoSubscription id).nextId = w'.nextId := by
    unfold Workspace.dropUndoSubscription
    split <;> rfl
  have hs := (h.dropUndoSubscription hid).subscribe .undoStackChanged (.undoManager manager) hfirst
  have hkept : ((w'.dropUndoSubscription id).subscribe .undoStackChanged
      (.undoManager manager)).2.nextId = w'.nextId := by
    obtain ⟨cause, hcause⟩ | hok :=
      subscribe_cases .undoStackChanged (.undoManager manager) (w'.dropUndoSubscription id)
    · rw [hcause]
      exact hdropped
    · rw [hok]
      exact hdropped
  unfold Workspace.setUndoManager
  generalize (w.dropUndoSubscription id).subscribe .undoStackChanged (.undoManager manager) = r
    at hs ⊢
  generalize (w'.dropUndoSubscription id).subscribe .undoStackChanged (.undoManager manager) = r'
    at hs hkept ⊢
  cases hs with
  | error hw => exact .error hw
  | ok hnumber hw =>
      refine .ok rfl (hw.changeSession hid (fun s => ?_) fun s other hother => ?_)
      · rw [hnumber]
        rfl
      · obtain rfl := Option.some.inj hother
        exact .inr ⟨hfirst, Nat.lt_of_lt_of_eq hnext hkept.symm⟩

theorem Twin.setEditing (h : Twin σ f w w') {id : Nat} (hid : σ.first ≤ id) (editing : Bool) :
    Twin σ f (w.setEditing id editing) (w'.setEditing id editing) := by
  unfold Workspace.setEditing
  rw [h.session hid]
  cases w'.sessions.get? id with
  | none => exact h
  | some s => exact (h.interfaceNote s.frontend _).modifySession hid (fun _ => rfl) fun _ => rfl

theorem Twin.submitFor (h : Twin σ f w w') {id : Nat} (hid : σ.first ≤ id)
    (operation : MemberId → Operation) :
    Answers Eq σ f (w.submitFor act id operation) (w'.submitFor act id operation) := by
  unfold Workspace.submitFor
  rw [h.session hid]
  cases w'.sessions.get? id with
  | none => exact .ok rfl h
  | some s => exact h.submit [operation s.core.member]

/-! ## Destroying sessions -/

theorem Twin.tearDownPart (h : Twin σ f w w') (frontend : Frontend) (part : String)
    {release : Workspace → Workspace}
    (hrelease : ∀ w w', Twin σ f w w' → Twin σ f (release w) (release w')) :
    Answers Eq σ f (tearDownPart frontend part release w)
      (tearDownPart frontend part release w') := by
  have hnoted := h.interfaceNote frontend (.tornDown part)
  unfold Workspace.tearDownPart
  cases frontend with
  | headless => exact .ok rfl (hrelease _ _ hnoted)
  | recording failing =>
      simp only
      split
      · exact .error hnoted
      · exact .ok rfl (hrelease _ _ hnoted)

theorem Twin.tearDownAll (h : Twin σ f w w') {actions : List (TeardownAction Workspace)}
    (hactions : ∀ action ∈ actions, ∀ w w', Twin σ f w w' →
      Answers Eq σ f (action w) (action w')) :
    Answers Eq σ f (Coedit.tearDownAll actions w) (Coedit.tearDownAll actions w') := by
  induction actions generalizing w w' with
  | nil => exact .ok rfl h
  | cons action rest ih =>
      have hfirst := hactions action List.mem_cons_self w w' h
      unfold Coedit.tearDownAll
      generalize action w = r at hfirst ⊢
      generalize action w' = r' at hfirst ⊢
      cases hfirst with
      | ok _ hw => exact ih hw fun action hmem => hactions action (List.mem_cons_of_mem _ hmem)
      | error hw => exact .error hw

theorem Twin.releaseInput (h : Twin σ f w w') {id : Nat} (hid : σ.first ≤ id) :
    Twin σ f (w.releaseInput id) (w'.releaseInput id) :=
  (h.dropUndoSubscription hid).modifySession hid (fun _ => rfl) fun _ => rfl

theorem Twin.releaseSignals (h : Twin σ f w w') {id : Nat} (hid : σ.first ≤ id) :
    Twin σ f (w.releaseSignals id) (w'.releaseSignals id) := by
  unfold Workspace.releaseSignals
  rw [h.session hid]
  cases w'.sessions.get? id with
  | none => exact h
  | some s =>
      exact (h.unsubscribeAll rfl).modifySession hid (fun _ => rfl) fun _ => rfl

theorem Twin.dropSession (h : Twin σ f w w') {id : Nat} (hid : σ.first ≤ id) :
    Twin σ f (w.dropSession id) (w'.dropSession id) :=
  h.modifySession hid (fun _ => rfl) fun _ => rfl

theorem Twin.destroySession (h : Twin σ f w w') {id : Nat} (hid : σ.first ≤ id) :
    Answers Eq σ f (w.destroySession id) (w'.destroySession id) := by
  unfold Workspace.destroySession
  rw [h.session hid]
  cases w'.sessions.get? id with
  | none => exact .ok rfl h
  | some s =>
      have htorn : Answers Eq σ f (Coedit.tearDownAll (sessionTeardown id s.frontend) w)
          (Coedit.tearDownAll (sessionTeardown id s.frontend) w') := by
        refine h.tearDownAll fun action hmem w w' hw => ?_
        rcases List.mem_append.1 hmem with hpart | hlast
        · obtain ⟨part, -, rfl⟩ := List.mem_map.1 hpart
          refine hw.tearDownPart s.frontend part fun w w' hw => ?_
          split
          · exact hw.releaseInput hid
          · exact hw
        · rw [List.mem_singleton.1 hlast]
          exact .ok rfl (hw.releaseSignals hid)
      simp only [Option.map_some]
      show Answers Eq σ f ((Coedit.tearDownAll (sessionTeardown id s.frontend) w).1,
        (Coedit.tearDownAll (sessionTeardown id s.frontend) w).2.dropSession id) _
      generalize Coedit.tearDownAll (sessionTeardown id s.frontend) w = r at htorn ⊢
      generalize Coedit.tearDownAll (sessionTeardown id s.frontend) w' = r' at htorn ⊢
      cases htorn with
      | ok hsame hw => exact .ok hsame (hw.dropSession hid)
      | error hw => exact .error (hw.dropSession hid)

theorem Twin.askSession (h : Twin σ f w w') {id : Nat} {s : Session}
    (hs : w'.sessions.get? id = some s) (query : SessionQuery) :
    w.askSession (s.renumber σ.engine) query = w'.askSession s query := by
  cases query with
  | undoState =>
      have hmanager : w.inputUndoManager? (s.renumber σ.engine) = w'.inputUndoManager? s := by
        unfold Workspace.inputUndoManager?
        show s.input.undoManager.bind w.undoManagers.get? = _
        cases hm : s.input.undoManager with
        | none => rfl
        | some manager =>
            exact h.manager ((h.sessions.bounded id s hs).2.2 manager hm).1
      unfold Workspace.askSession
      rw [hmanager]
  | _ =>
      obtain ⟨p, rfl⟩ := h.same
      rfl

end Sessions

end Workspace

end Coedit
