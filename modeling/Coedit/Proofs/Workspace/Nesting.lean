import Coedit.Proofs.Workspace.Attempt
import Coedit.Proofs.Workspace.Potential

/-!
# Nesting is never cut short

`Workspace.execute` bounds the depth to which the commands of observers nest. Every command
costs less than its weight, so the bound is always high enough: carrying out a command is one
`step` in which nested commands are carried out in the same way (`execute_eq_step`), and no
trace of the bound is left.
-/

namespace Coedit.Workspace

/-! ## Costs of single functions -/

theorem mild_followUp : Mild followUp := by
  intro act act' bound frugal agree w hw
  simp only [followUp]
  split
  · exact mild_flush frugal agree w hw
  · exact ⟨rfl, Nat.le_refl _⟩

theorem potential_take {batch : Batch} {w w' : Workspace} (h : w.take batch = .ok w') :
    w'.potential = w.potential + 1 := by
  unfold take Engine.accept at h
  cases hp : w.engine.phase <;> simp only [hp, Except.ok.injEq, reduceCtorEq] at h
  subst h
  rw [potential_eq, potential_eq]
  simp only [List.length_append, List.length_singleton]
  omega

theorem potential_takeFrom {batch : Batch} {w w' : Workspace} (h : w.takeFrom batch = .ok w') :
    w'.potential = w.potential + 1 := by
  unfold takeFrom at h
  cases hr : w.refused? batch with
  | some op => simp [hr] at h
  | none =>
      rw [hr] at h
      exact potential_take h

/-- Taking a batch costs one; what follows is paid by it. -/
theorem costs_taking {take : Workspace → Except EngineError Workspace}
    (h : ∀ w w', take w = .ok w' → w'.potential = w.potential + 1) :
    Costs 1 fun act w => match take w with
      | .error cause => ((.error cause : Except EngineError Unit), w)
      | .ok w => (.ok (), w.followUp act) := by
  intro act act' bound frugal agree w hw
  simp only
  cases ht : take w with
  | error cause => exact ⟨rfl, Nat.le_add_right _ _⟩
  | ok w' =>
      have hpot := h w w' ht
      obtain ⟨heq, hle⟩ := mild_followUp frugal agree w' (by omega)
      exact ⟨by simp only; rw [heq], by simp only; omega⟩

theorem costs_enqueue (batch : Batch) : Costs 1 fun act => enqueue act batch :=
  costs_taking fun _ _ h => potential_take h

theorem costs_submit (batch : Batch) : Costs 1 fun act => submit act batch :=
  costs_taking fun _ _ h => potential_takeFrom h

theorem potential_finishClose (w : Workspace) :
    { w with engine := w.engine.finishClose.2 }.potential = w.potential := by
  unfold Engine.finishClose
  cases w.engine.closeFailure <;> rfl

theorem costs_closeEngine : Costs 0 closeEngine := by
  intro act act' bound frugal agree w hw
  simp only [closeEngine]
  split
  · obtain ⟨heq, hle⟩ := mild_flush frugal agree w hw
    rw [← heq]
    exact ⟨rfl, Nat.le_trans (Nat.le_of_eq (potential_finishClose _)) hle⟩
  · exact ⟨rfl, Nat.le_refl _⟩

theorem potential_subscribe (signal : EngineSignal) (listener : EngineListener) (w : Workspace) :
    (w.subscribe signal listener).2.potential = w.potential := by
  unfold subscribe
  split
  · rfl
  · unfold Engine.subscribe
    cases w.engine.bus.subscribe signal listener <;> rfl

theorem potential_foldl_unsubscribe (made : List (EngineSignal × Nat)) (w : Workspace) :
    (made.foldl (fun w s => w.unsubscribe s.1 s.2) w).potential = w.potential := by
  induction made generalizing w with
  | nil => rfl
  | cons s rest ih => rw [List.foldl_cons, ih, potential_unsubscribe]

theorem potential_subscribeSession (id : Nat) (signals : List EngineSignal)
    (made : List (EngineSignal × Nat)) (w : Workspace) :
    (subscribeSession id made signals w).2.potential = w.potential := by
  induction signals generalizing made w with
  | nil => rfl
  | cons signal rest ih =>
      have hsub := potential_subscribe signal (.session id) w
      unfold subscribeSession
      cases h : w.subscribe signal (.session id) with
      | mk answer w' =>
          rw [h] at hsub
          cases answer with
          | ok subscription => exact (ih _ _).trans hsub
          | error cause => exact (potential_foldl_unsubscribe _ _).trans hsub

theorem potential_createSession (spec : SessionSpec) (features : FeatureSet) (w : Workspace) :
    (w.createSession spec features).2.potential = w.potential := by
  have hsub := potential_subscribeSession w.nextId relayedSignals []
    { w.interfaceNote spec.frontend (.components spec.member features) with
      nextId := w.nextId + 1 }
  have hnote := potential_interfaceNote spec.frontend (.components spec.member features) w
  have hid : (w.interfaceNote spec.frontend (.components spec.member features)).nextId =
      w.nextId := by
    cases spec.frontend <;> rfl
  unfold createSession
  simp only [hid]
  cases h : subscribeSession w.nextId [] relayedSignals
      { w.interfaceNote spec.frontend (.components spec.member features) with
        nextId := w.nextId + 1 } with
  | mk answer w' =>
      rw [h] at hsub
      cases answer <;> exact hsub.trans hnote

theorem potential_changeReservation (id : Nat) (proposal : Proposal)
    (change : SessionCore → StyleId → SessionCore) (w : Workspace) :
    (w.changeReservation id proposal change).potential = w.potential := by
  unfold changeReservation
  cases proposal.reserve <;> rfl

/-- Queueing an edit costs as many batches as the flag says. -/
theorem potential_queueEdit (id : Nat) (e : Edit) (w : Workspace) :
    (w.queueEdit id e).2.potential ≤ w.potential + 1 := by
  unfold queueEdit
  cases w.sessions.get? id with
  | none => exact Nat.le_add_right _ _
  | some s =>
      simp only
      cases s.core.propose w.engine.replica e with
      | error cause => exact Nat.le_add_right _ _
      | ok proposal =>
          simp only
          split
          · exact Nat.le_add_right _ _
          · have hreserve := potential_changeReservation id proposal .reserve w
            cases ht : (w.changeReservation id proposal .reserve).takeFrom proposal.batch with
            | error cause =>
                simp only [potential_changeReservation]
                omega
            | ok w' =>
                have htake := potential_takeFrom ht
                simp only
                omega

theorem costs_edit (id : Nat) (e : Edit) : Costs 1 fun act => edit act id e := by
  intro act act' bound frugal agree w hw
  have hqueue := potential_queueEdit id e w
  simp only [edit]
  cases hq : w.queueEdit id e with
  | mk answer w' =>
      rw [hq] at hqueue
      simp only at hqueue
      cases answer with
      | error cause => exact ⟨rfl, hqueue⟩
      | ok made =>
          obtain ⟨answer, queued⟩ := made
          cases queued with
          | false =>
              simp only [Bool.false_eq_true, if_false]
              exact ⟨trivial, hqueue⟩
          | true =>
              obtain ⟨heq, hle⟩ := mild_followUp frugal agree w' (by omega)
              simp only [if_true]
              rw [← heq]
              exact ⟨rfl, Nat.le_trans hle hqueue⟩

theorem costs_submitFor (id : Nat) (operation : MemberId → Operation) :
    Costs 1 fun act => submitFor act id operation := by
  intro act act' bound frugal agree w hw
  simp only [submitFor]
  cases w.sessions.get? id with
  | none => exact ⟨rfl, Nat.le_add_right _ _⟩
  | some s => exact costs_submit [operation s.core.member] frugal agree w hw

theorem potential_dropUndoSubscription (id : Nat) (w : Workspace) :
    (w.dropUndoSubscription id).potential = w.potential := by
  unfold dropUndoSubscription
  cases (w.sessions.get? id).bind (·.input.undoSubscription) <;> rfl

theorem potential_setUndoManager (id manager : Nat) (w : Workspace) :
    (setUndoManager id manager w).2.potential = w.potential := by
  have hdrop := potential_dropUndoSubscription id w
  have hsub := potential_subscribe .undoStackChanged (.undoManager manager)
    (w.dropUndoSubscription id)
  unfold setUndoManager
  cases h : (w.dropUndoSubscription id).subscribe .undoStackChanged (.undoManager manager) with
  | mk answer w' =>
      rw [h] at hsub
      cases answer <;> exact hsub.trans hdrop

theorem potential_setEditing (id : Nat) (editing : Bool) (w : Workspace) :
    (setEditing id editing w).potential = w.potential := by
  unfold setEditing
  cases w.sessions.get? id with
  | none => rfl
  | some s => exact potential_interfaceNote _ _ w

theorem potential_tearDownPart {frontend : Frontend} {part : String}
    {release : Workspace → Workspace} (h : ∀ w, (release w).potential = w.potential)
    (w : Workspace) : (tearDownPart frontend part release w).2.potential = w.potential := by
  unfold tearDownPart
  cases frontend with
  | headless => exact h _
  | recording failing =>
      simp only
      split
      · rfl
      · exact h _

theorem potential_tearDownAll {actions : List (TeardownAction Workspace)}
    (h : ∀ action ∈ actions, ∀ w, (action w).2.potential = w.potential) (w : Workspace) :
    (tearDownAll actions w).2.potential = w.potential := by
  induction actions generalizing w with
  | nil => rfl
  | cons action rest ih =>
      have hfirst := h action (List.mem_cons_self) w
      unfold tearDownAll
      cases ha : action w with
      | mk answer w' =>
          rw [ha] at hfirst
          cases answer with
          | error cause => exact hfirst
          | ok _ =>
              exact (ih (fun other hmem => h other (List.mem_cons_of_mem _ hmem)) w').trans hfirst

theorem potential_releaseInput (id : Nat) (w : Workspace) :
    (w.releaseInput id).potential = w.potential :=
  potential_dropUndoSubscription id w

theorem potential_releaseSignals (id : Nat) (w : Workspace) :
    (w.releaseSignals id).potential = w.potential := by
  unfold releaseSignals
  cases w.sessions.get? id with
  | none => rfl
  | some s => exact potential_foldl_unsubscribe s.subscriptions w

theorem potential_destroySession (id : Nat) (w : Workspace) :
    (w.destroySession id).2.potential = w.potential := by
  unfold destroySession
  cases w.sessions.get? id with
  | none => rfl
  | some s =>
      show (tearDownAll (sessionTeardown id s.frontend) w).2.potential = w.potential
      refine potential_tearDownAll (fun action hmem w => ?_) w
      simp only [sessionTeardown, List.mem_append, List.mem_map, List.mem_singleton] at hmem
      rcases hmem with ⟨part, -, rfl⟩ | rfl
      · refine potential_tearDownPart (fun w => ?_) w
        split
        · exact potential_releaseInput id w
        · rfl
      · exact potential_releaseSignals id w

/-! ## Costs of attempts -/

def Affords {ε α : Type} (cost : Nat) (a : Conduct → Attempt ε α) : Prop :=
  Costs cost fun act => (a act).result

section Attempts

variable {ε α β : Type}

theorem Affords.bind {m n : Nat} {a : Conduct → Attempt ε α} {f : α → Conduct → Attempt ε β}
    (ha : Affords m a) (hf : ∀ x, Affords n (f x)) :
    Affords (m + n) fun act => a act >>= fun x => f x act := by
  intro act act' bound frugal agree w hw
  obtain ⟨heq, hle⟩ := ha frugal agree w (by omega)
  simp only [Attempt.result_bind] at heq hle ⊢
  rw [← heq]
  cases hr : (a act).result w with
  | mk answer w' =>
      rw [hr] at hle
      simp only at hle
      cases answer with
      | error e => exact ⟨rfl, by simp only; omega⟩
      | ok x =>
          obtain ⟨heq', hle'⟩ := hf x frugal agree w' (by omega)
          exact ⟨heq', by simp only at hle' ⊢; omega⟩

theorem Affords.tryCatch {m n : Nat} {a : Conduct → Attempt ε α}
    {handle : ε → Conduct → Attempt ε α} (ha : Affords m a) (hh : ∀ e, Affords n (handle e)) :
    Affords (m + n) fun act => tryCatch (a act) fun e => handle e act := by
  intro act act' bound frugal agree w hw
  obtain ⟨heq, hle⟩ := ha frugal agree w (by omega)
  simp only [Attempt.result_tryCatch] at heq hle ⊢
  rw [← heq]
  cases hr : (a act).result w with
  | mk answer w' =>
      rw [hr] at hle
      simp only at hle
      cases answer with
      | ok x => exact ⟨rfl, by simp only; omega⟩
      | error e =>
          obtain ⟨heq', hle'⟩ := hh e frugal agree w' (by omega)
          exact ⟨heq', by simp only at hle' ⊢; omega⟩

theorem Affords.of_le {cost : Nat} {a : Attempt ε α}
    (h : ∀ w, (a.result w).2.potential ≤ w.potential + cost) : Affords cost fun _ => a :=
  Costs.of_le h

theorem affords_throw (e : ε) : Affords 0 fun _ => (throw e : Attempt ε α) :=
  Affords.of_le fun _ => Nat.le_refl _

theorem affords_pure (a : α) : Affords 0 fun _ => (pure a : Attempt ε α) :=
  Affords.of_le fun _ => Nat.le_refl _

theorem affords_modify {f : Conduct → Workspace → Workspace} (h : Mild f) :
    Affords 0 fun act => (modify (f act) : Attempt ε Unit) := by
  intro act act' bound frugal agree w hw
  obtain ⟨heq, hle⟩ := h frugal agree w hw
  simp only [Attempt.result_modify]
  exact ⟨by rw [heq], hle⟩

theorem affords_modify_of_eq {f : Workspace → Workspace}
    (h : ∀ w, (f w).potential = w.potential) :
    Affords 0 fun _ => (modify f : Attempt ε Unit) :=
  affords_modify (Mild.of_le fun w => Nat.le_of_eq (h w))

theorem affords_modifyGet_of_eq {f : Workspace → α × Workspace}
    (h : ∀ w, (f w).2.potential = w.potential) :
    Affords 0 fun _ => (modifyGet f : Attempt ε α) :=
  Affords.of_le fun w => Nat.le_of_eq (h w)

theorem affords_advance (action : EditorAction) : Affords 0 fun _ => advance action := by
  refine Affords.of_le fun w => Nat.le_of_eq ?_
  unfold advance
  rw [Attempt.result_of]
  cases w.editor with
  | none => rfl
  | some e =>
      simp only
      cases e.state.next action <;> rfl

theorem affords_byEngine {cost : Nat}
    {f : Conduct → Workspace → Except EngineError α × Workspace} (h : Costs cost f) :
    Affords cost fun act => byEngine (f act) := by
  intro act act' bound frugal agree w hw
  obtain ⟨heq, hle⟩ := h frugal agree w hw
  simp only [result_byEngine]
  rw [← heq]
  exact ⟨rfl, hle⟩

theorem affords_byEngine_of_eq {f : Workspace → Except EngineError α × Workspace}
    (h : ∀ w, (f w).2.potential = w.potential) : Affords 0 fun _ => byEngine f :=
  affords_byEngine (Costs.of_le fun w => Nat.le_of_eq (h w))

theorem affords_bySession {f : Workspace → Except EngineError α × Workspace}
    (h : ∀ w, (f w).2.potential = w.potential) : Affords 0 fun _ => bySession f := by
  refine Affords.of_le fun w => Nat.le_of_eq ?_
  rw [result_bySession]
  exact h w

end Attempts

/-! ## Costs of the editor's commands -/

theorem Affords.mono {ε α : Type} {cost cost' : Nat} {a : Conduct → Attempt ε α}
    (h : Affords cost a) (hle : cost ≤ cost') : Affords cost' a :=
  Costs.mono h hle

theorem potential_attachToolbar (e : Editor) (attached : Bool) (w : Workspace) :
    (attachToolbar e attached w).potential = w.potential :=
  potential_interfaceNote _ _ w

theorem potential_relayModified (e : Editor) (manager : Nat) (w : Workspace) :
    (relayModified e manager w).potential = w.potential := by
  unfold relayModified
  cases w.undoManagers.get? manager with
  | none => rfl
  | some m =>
      simp only
      cases m.subscribe e.id <;> rfl

theorem potential_detachRelays (w : Workspace) : (detachRelays w).potential = w.potential := by
  unfold detachRelays
  cases w.editor with
  | none => rfl
  | some e =>
      simp only [potential_modifyEditor]
      split <;> split <;> rfl

theorem potential_abandonSession (w : Workspace) :
    (abandonSession w).potential = w.potential := by
  unfold abandonSession
  cases w.editor.bind (·.session) <;> rfl

theorem affords_startUndo (e : Editor) (session : Nat) :
    Affords 0 fun _ => startUndo e session := by
  unfold startUndo
  refine (affords_modify_of_eq fun w => ?_).bind fun _ =>
    (affords_modifyGet_of_eq fun _ => ?_).bind fun manager =>
      (affords_byEngine_of_eq fun w => ?_).bind fun _ => affords_modify_of_eq fun w => ?_
  · exact potential_interfaceNote _ _ w
  · rfl
  · exact potential_setUndoManager session manager w
  · exact potential_relayModified e manager w

/-- The member and its cursor: two batches. -/
theorem affords_enterDocument (e : Editor) (session : Nat) :
    Affords 2 fun act => enterDocument act e session := by
  unfold enterDocument
  refine ((affords_byEngine_of_eq fun w => ?_).bind fun relay =>
    (affords_modify_of_eq fun _ => ?_).bind fun _ =>
      (affords_byEngine (costs_submit _)).bind fun _ =>
        (affords_modify_of_eq fun w => ?_).bind fun _ =>
          (affords_byEngine (costs_submitFor session _)).bind fun _ =>
            affords_modify_of_eq fun w => ?_).mono (Nat.le_of_eq rfl)
  · exact potential_subscribe _ _ w
  · rfl
  · exact potential_attachToolbar e true w
  · exact potential_setEditing session true w

theorem affords_equipSession (e : Editor) (session : Nat) :
    Affords 2 fun act => equipSession act e session := by
  unfold equipSession
  split
  · exact ((affords_startUndo e session).bind fun _ =>
      affords_enterDocument e session).mono (by decide)
  · exact affords_enterDocument e session

theorem affords_startSession (e : Editor) : Affords 2 fun act => startSession act e := by
  unfold startSession
  refine ((affords_bySession fun w => ?_).bind fun session =>
    ((affords_equipSession e session).tryCatch (n := 0) fun cause => ?_).bind fun _ =>
      affords_modify_of_eq fun _ => ?_).mono (Nat.le_of_eq rfl)
  · exact potential_createSession _ _ w
  · refine (affords_modify_of_eq fun _ => ?_).bind fun _ => affords_throw cause
    rfl
  · rfl

theorem potential_loadDocument (files : FileTree) (url : String) (w : Workspace) :
    (w.loadDocument files url).2.potential ≤ w.potential := by
  unfold loadDocument Engine.load
  cases w.engine.find files url with
  | error cause => exact Nat.le_refl _
  | ok document =>
      simp only [potential_eq, Engine.openDocument, List.length_nil]
      omega

theorem mild_abandonOpening : Mild abandonOpening := by
  intro act act' bound frugal agree w hw
  have hleft : w.detachRelays.abandonSession.potential = w.potential := by
    rw [potential_abandonSession, potential_detachRelays]
  obtain ⟨heq, hle⟩ := costs_closeEngine frugal agree w.detachRelays.abandonSession (by omega)
  unfold abandonOpening
  rw [← heq]
  exact ⟨rfl, by omega⟩

theorem affords_openDocument (files : FileTree) (e : Editor) (url : String) :
    Affords 2 fun act => openDocument act files e url := by
  unfold openDocument startLoaded
  refine ((affords_advance .open).bind fun _ =>
    ((affords_byEngine (Costs.of_le fun w => ?_)).tryCatch (m := 0) (n := 0) fun cause => ?_).bind
      fun _ => ((affords_startSession e).tryCatch (n := 0) fun cause => ?_).bind fun _ =>
        affords_advance .ready).mono (Nat.le_of_eq rfl)
  · exact potential_loadDocument files url w
  · exact (affords_advance .loadFailed).bind fun _ => affords_throw cause
  · exact (affords_modify mild_abandonOpening).bind fun _ =>
      (affords_advance .loadFailed).bind fun _ => affords_throw cause

/-- The cursor and the member: two batches. -/
theorem affords_leaveDocument (e : Editor) (session : Nat) :
    Affords 2 fun act => leaveDocument act e session := by
  unfold leaveDocument
  refine ((affords_byEngine (costs_submitFor session _)).bind fun _ =>
    (affords_byEngine (costs_submit _)).bind fun _ =>
      (affords_byEngine costs_closeEngine).bind fun _ =>
        (affords_modify_of_eq potential_detachRelays).bind (n := 0) fun _ =>
          Affords.of_le fun w => Nat.le_of_eq ?_).mono (Nat.le_of_eq rfl)
  have hdestroy := potential_destroySession session w
  rw [Attempt.result_of]
  cases h : w.destroySession session with
  | mk answer w' =>
      rw [h] at hdestroy
      cases answer <;> exact hdestroy

theorem affords_closeDocument (e : Editor) : Affords 2 fun act => closeDocument act e := by
  unfold closeDocument
  refine ((affords_advance .close).bind (n := 2) fun _ => ?_).mono (Nat.le_of_eq rfl)
  cases e.session with
  | none => exact (affords_throw _).mono (by decide)
  | some session =>
      refine ((affords_modify_of_eq fun _ => ?_).bind fun _ =>
        (affords_modify_of_eq fun w => ?_).bind fun _ =>
          (affords_modify_of_eq fun w => ?_).bind fun _ =>
            ((affords_leaveDocument e session).tryCatch (n := 0) fun cause => ?_).bind fun _ =>
              affords_advance .closed).mono (Nat.le_of_eq rfl)
      · rfl
      · exact potential_setEditing session false w
      · exact potential_attachToolbar e false w
      · refine (affords_modify_of_eq potential_detachRelays).bind fun _ =>
          (affords_modify (mild_report e.id (.unknownError cause.message))).bind fun _ =>
            (affords_modify_of_eq fun _ => ?_).bind fun _ => affords_throw cause
        rfl

theorem affords_destroyEditor (e : Editor) : Affords 0 fun _ => destroyEditor e := by
  unfold destroyEditor
  refine ((affords_advance .destroy).bind fun _ =>
    (affords_modifyGet_of_eq fun w => ?_).bind fun result =>
      (affords_modify_of_eq fun _ => ?_).bind (n := 0) fun _ => ?_).mono (Nat.le_of_eq rfl)
  · refine potential_tearDownAll (fun action hmem w => ?_) w
    obtain ⟨part, -, rfl⟩ := List.mem_map.1 hmem
    exact potential_tearDownPart (fun _ => rfl) w
  · rfl
  · cases result with
    | ok _ => exact affords_pure ()
    | error cause => exact affords_throw _

theorem affords_setUser (e : Editor) (user : MemberProperties) :
    Affords 1 fun act => setUser act e user := by
  unfold setUser
  refine ((affords_modify_of_eq fun _ => ?_).bind (n := 1) fun _ => ?_).mono (Nat.le_of_eq rfl)
  · rfl
  cases openSession? e with
  | none => exact (affords_pure ()).mono (by decide)
  | some session =>
      intro act act' bound frugal agree w hw
      obtain ⟨heq, hle⟩ := costs_edit session (.updateMember user.withDefaults) frugal agree w hw
      simp only [Attempt.result_of] at heq hle ⊢
      rw [← heq]
      refine ⟨rfl, ?_⟩
      cases h : w.edit act session (.updateMember user.withDefaults) with
      | mk answer w' =>
          rw [h] at hle
          cases answer <;> exact hle

theorem affords_setMetadata (e : Editor) (set : Dict String String) (removed : List String) :
    Affords 1 fun act => setMetadata act e set removed := by
  unfold setMetadata
  cases openSession? e with
  | none => exact (affords_throw _).mono (by decide)
  | some session => exact affords_byEngine (costs_submit _)

/-! ## Costs of commands -/

theorem Costs.reply {ε : Type} {cost : Nat} {f : Conduct → Workspace → Except ε Unit × Workspace}
    (h : Costs cost f) (failure : ε → Failure) :
    Costs cost fun act w => reply failure (f act w) := by
  intro act act' bound frugal agree w hw
  obtain ⟨heq, hle⟩ := h frugal agree w hw
  simp only
  rw [← heq]
  refine ⟨rfl, ?_⟩
  cases hr : f act w with
  | mk answer w' =>
      rw [hr] at hle
      cases answer <;> exact hle

theorem Costs.holding {cost : Nat} {job : Conduct → Workspace → Reply × Workspace}
    (h : Costs cost job) (place : Place) (access : Access) :
    Costs cost fun act => holding place access (job act) := by
  intro act act' bound frugal agree w hw
  simp only [Workspace.holding]
  split
  · obtain ⟨heq, hle⟩ := h frugal agree { w with holds := (place, access) :: w.holds } hw
    rw [← heq]
    exact ⟨rfl, hle⟩
  · exact ⟨rfl, Nat.le_add_right _ _⟩

theorem Costs.withSession {cost : Nat} {job : Conduct → Nat → Workspace → Reply × Workspace}
    (h : ∀ id, Costs cost fun act => job act id) (access : Access) :
    Costs cost fun act => withSession access (job act) := by
  intro act act' bound frugal agree w hw
  simp only [Workspace.withSession]
  cases w.meantSession with
  | none => exact ⟨rfl, Nat.le_add_right _ _⟩
  | some meant =>
      obtain ⟨place, session⟩ := meant
      cases session with
      | some id => exact Costs.holding (h id) place access frugal agree w hw
      | none =>
          have hjob : Costs cost fun _ w => ((.failed (.editor .noSession) : Reply), w) :=
            Costs.of_le fun _ => Nat.le_add_right _ _
          exact Costs.holding hjob place access frugal agree w hw

theorem Costs.withEditor {cost : Nat} {job : Conduct → Editor → Workspace → Reply × Workspace}
    (h : ∀ e, Costs cost fun act => job act e) (access : Access) :
    Costs cost fun act => withEditor access (job act) := by
  intro act act' bound frugal agree w hw
  simp only [Workspace.withEditor]
  cases w.editor with
  | none => exact ⟨rfl, Nat.le_add_right _ _⟩
  | some e => exact Costs.holding (h e) .editor access frugal agree w hw

theorem costs_doEngine (c : EngineCommand) : Costs 1 fun act w => doEngine act w c := by
  cases c with
  | load url =>
      exact Costs.reply (Costs.of_le fun w => Nat.le_add_right_of_le
        (potential_loadDocument w.files url w)) .engine
  | close => exact (costs_closeEngine.reply .engine).mono (by decide)
  | flush =>
      intro act act' bound frugal agree w hw
      obtain ⟨heq, hle⟩ := mild_flush frugal agree w (by omega)
      simp only [doEngine]
      rw [← heq]
      exact ⟨rfl, Nat.le_add_right_of_le hle⟩
  | enqueue batch => exact (costs_enqueue batch).reply .engine
  | _ => exact Costs.of_le fun _ => Nat.le_add_right _ _

theorem costs_doSession (id : Nat) (c : SessionCommand) :
    Costs 1 fun act w => doSession act id w c := by
  cases c with
  | edit e =>
      intro act act' bound frugal agree w hw
      obtain ⟨heq, hle⟩ := costs_edit id e frugal agree w hw
      simp only [doSession] at heq hle ⊢
      rw [← heq]
      refine ⟨rfl, ?_⟩
      cases h : w.edit act id e with
      | mk answer w' =>
          rw [h] at hle
          cases answer <;> exact hle
  | ask query =>
      refine Costs.of_le fun w => ?_
      cases w.sessions.get? id <;> exact Nat.le_add_right _ _
  | _ => exact Costs.of_le fun _ => Nat.le_add_right _ _

theorem costs_doInput (id : Nat) (c : InputCommand) :
    Costs 1 fun act w => doInput act id w c := by
  cases c with
  | insertCursor => exact (costs_submitFor id .addCursor).reply .engine
  | removeCursor => exact (costs_submitFor id .removeCursor).reply .engine
  | setUndoManager =>
      refine Costs.reply (Costs.of_le fun w => Nat.le_add_right_of_le ?_) .engine
      exact Nat.le_of_eq (potential_setUndoManager id w.nextId w.createUndoManager.2)
  | startEditing =>
      exact Costs.of_le fun w =>
        Nat.le_add_right_of_le (Nat.le_of_eq (potential_setEditing id true w))
  | endEditing =>
      exact Costs.of_le fun w =>
        Nat.le_add_right_of_le (Nat.le_of_eq (potential_setEditing id false w))

theorem costs_doEditor (e : Editor) (c : EditorCommand) :
    Costs 2 fun act w => doEditor act e w c := by
  cases c with
  | «open» url =>
      intro act act' bound frugal agree w hw
      exact Costs.reply (affords_openDocument w.files e url) .editor frugal agree w hw
  | close => exact Costs.reply (affords_closeDocument e) .editor
  | destroy => exact (Costs.reply (affords_destroyEditor e) .editor).mono (by decide)
  | setUser user => exact (Costs.reply (affords_setUser e user) .editor).mono (by decide)
  | setMetadata set removed =>
      exact (Costs.reply (affords_setMetadata e set removed) .editor).mono (by decide)
  | metadata property =>
      refine Costs.of_le fun w => ?_
      cases w.metadata? e property <;> exact Nat.le_add_right _ _
  | setModified modified =>
      intro act act' bound frugal agree w hw
      simp only [doEditor]
      cases e.undoManager with
      | none => exact ⟨rfl, Nat.le_add_right _ _⟩
      | some id =>
          obtain ⟨heq, hle⟩ := mild_setModified id modified frugal agree w (by omega)
          simp only at heq hle ⊢
          rw [← heq]
          exact ⟨rfl, Nat.le_add_right_of_le hle⟩
  | _ => exact Costs.of_le fun _ => Nat.le_add_right _ _

theorem potential_createEditor (spec : EditorSpec) (w : Workspace) :
    (w.createEditor spec).potential = w.potential := by
  unfold createEditor
  cases w.editor.bind (·.session) <;> rfl

theorem potential_newSession (spec : SessionSpec) (w : Workspace) :
    (w.newSession spec).2.potential = w.potential := by
  have hcreate := potential_createSession spec .all w
  unfold newSession
  cases h : w.createSession spec .all with
  | mk answer w' =>
      rw [h] at hcreate
      cases answer with
      | error cause => exact hcreate
      | ok id =>
          simp only at hcreate ⊢
          split
          · unfold installSession
            cases w'.standalone <;> exact hcreate
          · exact hcreate

theorem potential_destroyStandalone (w : Workspace) :
    (destroyStandalone w).2.potential ≤ w.potential := by
  unfold destroyStandalone
  cases w.standalone with
  | none => exact Nat.le_refl _
  | some id =>
      have hjob : Costs 0 fun _ w =>
          reply Failure.teardown ({ w with standalone := none }.destroySession id) :=
        Costs.reply (Costs.of_le fun w =>
          Nat.le_of_eq (potential_destroySession id { w with standalone := none })) _
      have frugal : Frugal (perform 0) := fun c w => Nat.le_add_right _ _
      exact (hjob.holding .standalone .exclusive frugal (agreeUpTo_refl _ _) w (Nat.le_refl _)).2

theorem potential_watchEngine (signal : EngineSignal) (label : String) (actions : List Command)
    (times : Nat) (w : Workspace) :
    (watchEngine signal label actions times w).2.potential ≤
      w.potential + times * Command.weights actions := by
  unfold watchEngine Engine.subscribe
  cases w.engine.bus.subscribe signal (.observer w.nextId) with
  | error cause => exact Nat.le_add_right _ _
  | ok made =>
      exact potential_addObserver label actions times
        { w with engine := { w.engine with bus := made.2 } }

theorem potential_watchSession (signal : SessionSignal) (label : String)
    (actions : List Command) (times id : Nat) (w : Workspace) :
    (watchSession signal label actions times id w).2.potential ≤
      w.potential + times * Command.weights actions := by
  unfold watchSession
  cases w.sessions.get? id with
  | none => exact Nat.le_add_right _ _
  | some s =>
      simp only
      cases s.bus.subscribe signal w.nextId with
      | error cause => exact Nat.le_add_right _ _
      | ok made =>
          exact potential_addObserver label actions times
            (w.modifySession id fun s => { s with bus := made.2 })

theorem potential_watchEditor (signal : EditorSignal) (label : String) (actions : List Command)
    (times : Nat) (e : Editor) (w : Workspace) :
    (watchEditor signal label actions times e w).2.potential ≤
      w.potential + times * Command.weights actions := by
  unfold watchEditor
  cases e.bus.subscribe signal w.nextId with
  | error cause => exact Nat.le_add_right _ _
  | ok made =>
      exact potential_addObserver label actions times
        (w.modifyEditor fun e => { e with bus := made.2 })

/-- No command costs as much as it weighs. -/
theorem costs_step (c : Command) : Costs (c.weight - 1) fun act => step act c := by
  cases c with
  | engine c => exact (costs_doEngine c).mono (by simp [Command.weight])
  | session c =>
      exact (Costs.withSession (fun id => costs_doSession id c) .shared).mono
        (by simp [Command.weight])
  | input c =>
      exact (Costs.withSession (fun id => costs_doInput id c) .exclusive).mono
        (by simp [Command.weight])
  | editor c =>
      exact (Costs.withEditor (fun e => costs_doEditor e c) (editorAccess c)).mono
        (by simp [Command.weight])
  | newSession spec =>
      exact Costs.of_le fun w =>
        Nat.le_add_right_of_le (Nat.le_of_eq (potential_newSession spec w))
  | destroySession =>
      exact Costs.of_le fun w => Nat.le_add_right_of_le (potential_destroyStandalone w)
  | newEditor spec =>
      have hjob : Costs 0 fun _ w => (Reply.done, createEditor spec w) :=
        Costs.of_le fun w => Nat.le_of_eq (potential_createEditor spec w)
      exact (hjob.holding .editor .exclusive).mono (Nat.zero_le _)
  | watchEngine signal label actions times =>
      refine Costs.of_le fun w => ?_
      have h := potential_watchEngine signal label actions times w
      simp only [Command.weight]
      exact Nat.le_trans h (by omega)
  | watchSession signal label actions times =>
      have hjob : ∀ id, Costs (times * Command.weights actions) fun _ =>
          watchSession signal label actions times id := fun id =>
        Costs.of_le (potential_watchSession signal label actions times id)
      exact (Costs.withSession hjob .shared).mono (by simp only [Command.weight]; omega)
  | watchEditor signal label actions times =>
      have hjob : ∀ e, Costs (times * Command.weights actions) fun _ =>
          watchEditor signal label actions times e := fun e =>
        Costs.of_le (potential_watchEditor signal label actions times e)
      exact (Costs.withEditor hjob .shared).mono (by simp only [Command.weight]; omega)
  | undecodable => exact Costs.of_le fun _ => Nat.le_add_right _ _

/-! ## The depth does not matter -/

theorem frugal_step {act : Conduct} (frugal : Frugal act) : Frugal (step act) := by
  intro c w
  have hle := (costs_step c frugal (agreeUpTo_refl _ act) w (Nat.le_refl _)).2
  have hpos := c.weight_pos
  simp only at hle
  omega

theorem frugal_perform (depth : Nat) : Frugal (perform depth) := by
  induction depth with
  | zero => exact fun c w => Nat.le_add_right _ _
  | succ depth ih => exact frugal_step ih

/-- Any two depths that cover the work of a command carry it out alike. -/
theorem perform_agree {depth depth' : Nat} (h : depth ≤ depth') :
    AgreeUpTo depth (perform depth) (perform depth') := by
  induction depth generalizing depth' with
  | zero =>
      intro c w hw
      have hpos := c.weight_pos
      omega
  | succ depth ih =>
      intro c w hw
      obtain ⟨rest, rfl⟩ : ∃ rest, depth' = rest + 1 := ⟨depth' - 1, by omega⟩
      have hpos := c.weight_pos
      exact (costs_step c (frugal_perform depth) (ih (by omega)) w (by omega)).1

theorem perform_eq_execute {depth : Nat} {c : Command} {w : Workspace}
    (h : w.potential + c.weight ≤ depth) : perform depth c w = w.execute c :=
  (perform_agree h c w (Nat.le_refl _)).symm

def conduct : Conduct := fun c w => w.execute c

theorem frugal_conduct : Frugal conduct := fun c w => frugal_perform _ c w

/-- A command is one step, in which all nested commands are carried out to the end. -/
theorem execute_eq_step (c : Command) (w : Workspace) : w.execute c = step conduct c w := by
  obtain ⟨depth, hdepth⟩ : ∃ depth, w.potential + c.weight = depth + 1 :=
    ⟨w.potential + c.weight - 1, by have := c.weight_pos; omega⟩
  have agree : AgreeUpTo depth (perform depth) conduct := fun c w hw => perform_eq_execute hw
  show perform (w.potential + c.weight) c w = step conduct c w
  rw [hdepth]
  have hpos := c.weight_pos
  exact (costs_step c (frugal_perform depth) agree w (by omega)).1

/-! ## An editor that is free -/

section Free

variable {w : Workspace} {e : Editor}

theorem withEditor_of_free {access : Access} {job : Editor → Workspace → Reply × Workspace}
    (he : w.editor = some e) (hfree : w.holds = []) :
    w.withEditor access job = ((job e { w with holds := [(.editor, access)] }).1,
      { (job e { w with holds := [(.editor, access)] }).2 with holds := [] }) := by
  have hheld : w.withEditor access job = w.holding .editor access (job e) := by
    unfold Workspace.withEditor
    rw [he]
  rw [hheld]
  unfold Workspace.holding
  rw [if_pos (by simp [isFree, hfree]), hfree]

/-- Where nothing is held, a command to the editor reaches it. -/
theorem execute_editor_of_free (he : w.editor = some e) (hfree : w.holds = []) (c : EditorCommand) :
    w.execute (.editor c) =
      ((doEditor conduct e { w with holds := [(.editor, editorAccess c)] } c).1,
        { (doEditor conduct e { w with holds := [(.editor, editorAccess c)] } c).2
          with holds := [] }) := by
  rw [execute_eq_step]
  exact withEditor_of_free he hfree

end Free

end Coedit.Workspace
