import Coedit.Proofs.Session.TwinSessions
import Coedit.Proofs.Workspace.Attempt

/-!
# Editors of twins

The editor opens and closes documents alike in twins, and whatever fails on the way fails on both
sides.
-/

namespace Coedit

open Workspace

namespace Attempt

variable {ε α β : Type} {P : α → α → Prop} {Q : β → β → Prop} {σ : Comparison} {f : Frame}

def Parallel (P : α → α → Prop) (σ : Comparison) (f : Frame) (a a' : Attempt ε α) : Prop :=
  ∀ w w', Twin σ f w w' → Answers P σ f (a.result w) (a'.result w')

theorem Parallel.bind {a a' : Attempt ε α} {next next' : α → Attempt ε β}
    (ha : Parallel P σ f a a')
    (hnext : ∀ x x', P x x' → Parallel Q σ f (next x) (next' x')) :
    Parallel Q σ f (a >>= next) (a' >>= next') := by
  intro w w' hw
  have hfirst := ha w w' hw
  rw [result_bind, result_bind]
  generalize a.result w = r at hfirst ⊢
  generalize a'.result w' = r' at hfirst ⊢
  cases hfirst with
  | ok hx hw => exact hnext _ _ hx _ _ hw
  | error hw => exact .error hw

theorem Parallel.tryCatch {a a' : Attempt ε α} {handle handle' : ε → Attempt ε α}
    (ha : Parallel P σ f a a') (hhandle : ∀ cause, Parallel P σ f (handle cause) (handle' cause)) :
    Parallel P σ f (MonadExcept.tryCatch a handle) (MonadExcept.tryCatch a' handle') := by
  intro w w' hw
  have hfirst := ha w w' hw
  rw [result_tryCatch, result_tryCatch]
  generalize a.result w = r at hfirst ⊢
  generalize a'.result w' = r' at hfirst ⊢
  cases hfirst with
  | ok hx hw => exact .ok hx hw
  | error hw => exact hhandle _ _ _ hw

theorem Parallel.pure {x x' : α} (h : P x x') :
    Parallel P σ f (pure x : Attempt ε α) (pure x') := fun _ _ hw => .ok h hw

theorem Parallel.throw (cause : ε) :
    Parallel P σ f (throw cause : Attempt ε α) (throw cause) := fun _ _ hw => .error hw

theorem Parallel.modify {change change' : Workspace → Workspace}
    (h : ∀ w w', Twin σ f w w' → Twin σ f (change w) (change' w')) :
    Parallel Eq σ f (modify change : Attempt ε Unit) (modify change') :=
  fun w w' hw => .ok rfl (h w w' hw)

theorem Parallel.modifyGet {get get' : Workspace → α × Workspace}
    (h : ∀ w w', Twin σ f w w' → P (get w).1 (get' w').1 ∧ Twin σ f (get w).2 (get' w').2) :
    Parallel P σ f (modifyGet get : Attempt ε α) (modifyGet get') :=
  fun w w' hw => .ok (h w w' hw).1 (h w w' hw).2

end Attempt

namespace Workspace

open Attempt (Parallel)

section Editors

variable {σ : Comparison} {f : Frame} {w w' : Workspace} {e e' : Editor} {act : Conduct} {α : Type}

theorem parallel_byEngine {P : α → α → Prop}
    {job job' : Workspace → Except EngineError α × Workspace}
    (h : ∀ w w', Twin σ f w w' → Answers P σ f (job w) (job' w')) :
    Parallel P σ f (byEngine job) (byEngine job') := by
  intro w w' hw
  have hjob := h w w' hw
  simp only [byEngine, Attempt.result_of]
  generalize job w = r at hjob ⊢
  generalize job' w' = r' at hjob ⊢
  cases hjob with
  | ok hx hw => exact .ok hx hw
  | error hw => exact .error hw

theorem parallel_bySession {P : α → α → Prop}
    {job job' : Workspace → Except EngineError α × Workspace}
    (h : ∀ w w', Twin σ f w w' → Answers P σ f (job w) (job' w')) :
    Parallel P σ f (bySession job) (bySession job') := by
  intro w w' hw
  have hjob := h w w' hw
  simp only [bySession, Attempt.result_of]
  generalize job w = r at hjob ⊢
  generalize job' w' = r' at hjob ⊢
  cases hjob with
  | ok hx hw => exact .ok hx hw
  | error hw => exact .error hw

theorem Answers.eq {ε : Type} {r r' : Except ε α × Workspace} (h : Answers Eq σ f r r') :
    r.1 = r'.1 ∧ Twin σ f r.2 r'.2 := by
  cases h with
  | ok hsame hw => exact ⟨congrArg Except.ok hsame, hw⟩
  | error hw => exact ⟨rfl, hw⟩

theorem Twin.modifyManager (h : Twin σ f w w') (id : Nat)
    (change : UndoManager Nat → UndoManager Nat) :
    Twin σ f { w with undoManagers := w.undoManagers.modify id change }
      { w' with undoManagers := w'.undoManagers.modify id change } := by
  obtain ⟨p, rfl⟩ := h.same
  refine ⟨⟨{ p with undoManagers := p.undoManagers.modify id change }, rfl⟩, h.bus, h.sessions,
    ⟨fun other hother => ?_, fun other m hm => ?_⟩, h.editor, h.quiet, h.frame, h.first⟩
  · show (p.undoManagers.modify id change).get? other =
      (w'.undoManagers.modify id change).get? other
    have hsame : p.undoManagers.get? other = w'.undoManagers.get? other := h.manager hother
    rw [Dict.get?_modify, Dict.get?_modify, hsame]
  · obtain ⟨m', hm', -⟩ := Dict.modify_cases hm
    exact h.undoManagers.bounded other m' hm'

/-! ## Changing the editor -/

theorem Twin.setEditor (h : Twin σ f w w') (he : EditorTwin σ e e') :
    Twin σ f { w with editor := some e } { w' with editor := some e' } := by
  obtain ⟨p, rfl⟩ := h.same
  exact ⟨⟨{ p with editor := some e }, rfl⟩, h.bus, h.sessions, h.undoManagers,
    ⟨e, e', rfl, rfl, he⟩, h.quiet, h.frame, h.first⟩

theorem Twin.modifyEditor (h : Twin σ f w w') {change change' : Editor → Editor}
    (hchange : ∀ e e', EditorTwin σ e e' → EditorTwin σ (change e) (change' e')) :
    Twin σ f (w.modifyEditor change) (w'.modifyEditor change') := by
  obtain ⟨e, e', he, he', htwin⟩ := h.editor
  unfold Workspace.modifyEditor
  rw [he, he']
  exact h.setEditor (hchange e e' htwin)

/-- A change to what is neither numbered nor refers to what may be out of use. -/
theorem EditorTwin.change (h : EditorTwin σ e e') (change : Editor → Editor)
    (hchange : ∀ bus, change (e'.renumber σ.engine bus) = (change e').renumber σ.engine bus)
    (hbus : (change e').bus = e'.bus) (hsession : (change e').session = e'.session)
    (hmanager : (change e').undoManager = e'.undoManager) :
    EditorTwin σ (change e) (change e') := by
  obtain ⟨bus, rfl⟩ := h.same
  rw [hchange]
  exact ⟨⟨bus, rfl⟩, hbus ▸ h.bus, hsession ▸ h.session, hmanager ▸ h.undoManager⟩

theorem parallel_advance (action : EditorAction) :
    Parallel Eq σ f (advance action) (advance action) := by
  intro w w' hw
  obtain ⟨e, e', he, he', htwin⟩ := hw.editor
  have hstate : e.state = e'.state := by
    obtain ⟨bus, rfl⟩ := htwin.same
    rfl
  simp only [advance, Attempt.result_of, he, he', hstate]
  cases e'.state.next action with
  | error fault => exact .error hw
  | ok state =>
      have hstate := htwin.change (fun e => { e with state }) (fun _ => rfl) rfl rfl rfl
      exact .ok rfl (hw.setEditor hstate)

theorem Twin.attachToolbar (h : Twin σ f w w') (he : EditorTwin σ e e') (attached : Bool) :
    Twin σ f (attachToolbar e attached w) (attachToolbar e' attached w') := by
  obtain ⟨bus, rfl⟩ := he.same
  exact (h.interfaceNote e'.frontend (.attached attached)).modifyEditor fun e e' he =>
    he.change (fun e => { e with toolbar := e.toolbar.attach attached }) (fun _ => rfl) rfl rfl rfl

theorem Twin.relayModified (h : Twin σ f w w') (he : EditorTwin σ e e') {manager : Nat}
    (hmanager : σ.first ≤ manager) :
    Twin σ f (relayModified e manager w) (relayModified e' manager w') := by
  obtain ⟨bus, rfl⟩ := he.same
  unfold Workspace.relayModified
  rw [h.manager hmanager]
  cases hm : w'.undoManagers.get? manager with
  | none => exact h
  | some m =>
      dsimp only [Editor.renumber]
      cases m.subscribe e'.id with
      | error cause => exact h
      | ok made =>
          refine (h.insertManager (h.undoManagers.bounded manager m hm) made.2).modifyEditor ?_
          intro e e' he
          obtain ⟨bus, rfl⟩ := he.same
          refine ⟨⟨bus, rfl⟩, he.bus, he.session, fun id hid => ?_⟩
          obtain rfl := Option.some.inj hid
          exact hmanager

/-! ## Opening -/

theorem parallel_startUndo (he : EditorTwin σ e e') {session : Nat} (hid : σ.first ≤ session) :
    Parallel Eq σ f (startUndo e session) (startUndo e' session) := by
  have hfrontend : e.frontend = e'.frontend := by
    obtain ⟨bus, rfl⟩ := he.same
    rfl
  unfold startUndo
  rw [hfrontend]
  refine Parallel.bind (P := Eq)
    (.modify fun w w' h => h.interfaceNote e'.frontend .undoManager) fun _ _ _ => ?_
  intro w w' hw
  have hset : Answers Eq σ f (w.createUndoManager.2.setUndoManager session w'.nextId)
      (w'.createUndoManager.2.setUndoManager session w'.nextId) :=
    hw.createUndoManager.setUndoManager hid hw.first (Nat.lt_succ_self _)
  show Answers Eq σ f
    ((byEngine (Workspace.setUndoManager session w.nextId) >>= fun _ =>
      modify (Workspace.relayModified e w.nextId)).result w.createUndoManager.2)
    ((byEngine (Workspace.setUndoManager session w'.nextId) >>= fun _ =>
      modify (Workspace.relayModified e' w'.nextId)).result w'.createUndoManager.2)
  rw [hw.nextId, Attempt.result_bind, Attempt.result_bind]
  simp only [byEngine, Attempt.result_of]
  generalize Workspace.setUndoManager session w'.nextId w.createUndoManager.2 = r at hset ⊢
  generalize Workspace.setUndoManager session w'.nextId w'.createUndoManager.2 = r' at hset ⊢
  cases hset with
  | ok _ hv => exact .ok rfl (hv.relayModified he hw.first)
  | error hv => exact .error hv

theorem parallel_enterDocument (he : EditorTwin σ e e') {session : Nat} (hid : σ.first ≤ session) :
    Parallel Eq σ f (enterDocument act e session) (enterDocument act e' session) := by
  obtain ⟨bus, rfl⟩ := he.same
  unfold enterDocument
  refine Parallel.bind (P := SameNumber σ)
    (parallel_byEngine fun w w' h => h.subscribe .metadataChanged (.metadataRelay e'.id) trivial)
    fun relay relay' hrelay => ?_
  refine Parallel.bind (P := Eq) (.modify fun w w' h => h.modifyEditor fun e e' he => ?_)
    fun _ _ _ => ?_
  · obtain ⟨bus, rfl⟩ := he.same
    rw [hrelay]
    exact ⟨⟨bus, rfl⟩, he.bus, he.session, he.undoManager⟩
  refine Parallel.bind (P := Eq)
    (parallel_byEngine fun w w' h => h.submit [.addMember e'.member e'.user]) fun _ _ _ => ?_
  refine Parallel.bind (P := Eq) (.modify fun w w' h => h.attachToolbar he true) fun _ _ _ => ?_
  refine Parallel.bind (P := Eq)
    (parallel_byEngine fun w w' h => h.submitFor hid .addCursor) fun _ _ _ => ?_
  exact .modify fun w w' h => h.setEditing hid true

theorem parallel_equipSession (he : EditorTwin σ e e') {session : Nat} (hid : σ.first ≤ session) :
    Parallel Eq σ f (equipSession act e session) (equipSession act e' session) := by
  have hfeatures : e.options = e'.options := by
    obtain ⟨bus, rfl⟩ := he.same
    rfl
  unfold equipSession
  rw [hfeatures]
  by_cases hundo : e'.options.features.undoRedo = true
  · rw [if_pos hundo, if_pos hundo]
    exact (parallel_startUndo he hid).bind fun _ _ _ => parallel_enterDocument he hid
  · rw [if_neg hundo, if_neg hundo]
    exact parallel_enterDocument he hid

theorem parallel_startSession (he : EditorTwin σ e e') :
    Parallel Eq σ f (startSession act e) (startSession act e') := by
  unfold startSession
  refine Parallel.bind (P := InUse σ) (parallel_bySession fun w w' h => ?_) ?_
  · obtain ⟨bus, rfl⟩ := he.same
    exact h.createSession _ _
  rintro session _ ⟨rfl, hid⟩
  refine Parallel.bind (P := Eq) (Parallel.tryCatch (parallel_equipSession he hid) fun cause => ?_)
    fun _ _ _ => .modify fun w w' h => h.modifyEditor fun e e' he => ?_
  · exact Parallel.bind (P := Eq) (.modify fun w w' h => h.dropSession hid)
      fun _ _ _ => .throw cause
  · obtain ⟨bus, rfl⟩ := he.same
    refine ⟨⟨bus, rfl⟩, he.bus, fun id hopen => ?_, he.undoManager⟩
    obtain rfl := Option.some.inj hopen
    exact hid

/-- The editor no longer hears from its undo manager. -/
theorem Twin.endModified (h : Twin σ f w w') (manager? subscription? : Option Nat) :
    Twin σ f
      (match manager?, subscription? with
        | some manager, some subscription =>
          { w with undoManagers := w.undoManagers.modify manager (·.unsubscribe subscription) }
        | _, _ => w)
      (match manager?, subscription? with
        | some manager, some subscription =>
          { w' with undoManagers := w'.undoManagers.modify manager (·.unsubscribe subscription) }
        | _, _ => w') := by
  split
  · exact h.modifyManager _ _
  · exact h

theorem Twin.detachRelays (h : Twin σ f w w') : Twin σ f w.detachRelays w'.detachRelays := by
  obtain ⟨e, e', he, he', htwin⟩ := h.editor
  obtain ⟨bus, rfl⟩ := htwin.same
  have hunrelayed : ∀ e e', EditorTwin σ e e' → EditorTwin σ
      { e with undoManager := none, modifiedSubscription := none, metadataSubscription := none }
      { e' with
        undoManager := none, modifiedSubscription := none, metadataSubscription := none } := by
    intro e e' he
    obtain ⟨bus, rfl⟩ := he.same
    exact ⟨⟨bus, rfl⟩, he.bus, he.session, fun _ hnone => nomatch hnone⟩
  unfold Workspace.detachRelays
  rw [he, he']
  dsimp only [Editor.renumber]
  cases e'.metadataSubscription with
  | none => exact (h.endModified _ _).modifyEditor hunrelayed
  | some relay =>
      exact ((h.unsubscribe .metadataChanged relay).endModified _ _).modifyEditor hunrelayed

theorem Twin.abandonSession (h : Twin σ f w w') : Twin σ f w.abandonSession w'.abandonSession := by
  obtain ⟨e, e', he, he', htwin⟩ := h.editor
  have hsession : e.session = e'.session := by
    obtain ⟨bus, rfl⟩ := htwin.same
    rfl
  unfold Workspace.abandonSession
  rw [he, he', Option.bind_some, Option.bind_some, hsession]
  cases hs : e'.session with
  | none => exact h
  | some id =>
      refine (h.dropSession (htwin.session id hs)).modifyEditor fun e e' he => ?_
      obtain ⟨bus, rfl⟩ := he.same
      exact ⟨⟨bus, rfl⟩, he.bus, fun _ hnone => (nomatch hnone), he.undoManager⟩

theorem Twin.abandonOpening (h : Twin σ f w w') :
    Twin σ f (w.abandonOpening act) (w'.abandonOpening act) := by
  have hclosed : Answers Eq σ f (w.detachRelays.abandonSession.closeEngine act)
      (w'.detachRelays.abandonSession.closeEngine act) := h.detachRelays.abandonSession.closeEngine
  unfold Workspace.abandonOpening
  generalize w.detachRelays.abandonSession.closeEngine act = r at hclosed ⊢
  generalize w'.detachRelays.abandonSession.closeEngine act = r' at hclosed ⊢
  cases hclosed with
  | ok _ hw => exact hw
  | error hw => exact hw

theorem parallel_startLoaded (he : EditorTwin σ e e') :
    Parallel Eq σ f (startLoaded act e) (startLoaded act e') := by
  unfold startLoaded
  refine Parallel.bind (P := Eq) (Parallel.tryCatch (parallel_startSession he) fun cause => ?_)
    fun _ _ _ => parallel_advance .ready
  refine Parallel.bind (P := Eq) (.modify fun w w' h => h.abandonOpening) fun _ _ _ => ?_
  exact (parallel_advance .loadFailed).bind fun _ _ _ => .throw cause

theorem parallel_openDocument (he : EditorTwin σ e e') (files : FileTree) (url : String) :
    Parallel Eq σ f (openDocument act files e url) (openDocument act files e' url) := by
  unfold openDocument
  refine (parallel_advance .open).bind fun _ _ _ => ?_
  refine Parallel.bind (P := Eq) (Parallel.tryCatch
    (parallel_byEngine fun w w' h => h.loadDocument files url) fun cause => ?_) fun _ _ _ => ?_
  · exact (parallel_advance .loadFailed).bind fun _ _ _ => .throw cause
  · exact parallel_startLoaded he

/-! ## Closing -/

theorem parallel_leaveDocument (he : EditorTwin σ e e') {session : Nat} (hid : σ.first ≤ session) :
    Parallel Eq σ f (leaveDocument act e session) (leaveDocument act e' session) := by
  obtain ⟨bus, rfl⟩ := he.same
  unfold leaveDocument
  refine Parallel.bind (P := Eq)
    (parallel_byEngine fun w w' h => h.submitFor hid .removeCursor) fun _ _ _ => ?_
  refine Parallel.bind (P := Eq)
    (parallel_byEngine fun w w' h => h.submit [.removeMember e'.member]) fun _ _ _ => ?_
  refine Parallel.bind (P := Eq) (parallel_byEngine fun w w' h => h.closeEngine) fun _ _ _ => ?_
  refine Parallel.bind (P := Eq) (.modify fun w w' h => h.detachRelays) fun _ _ _ => ?_
  intro w w' h
  have hdestroyed := h.destroySession hid
  simp only [Attempt.result_of]
  generalize w.destroySession session = r at hdestroyed ⊢
  generalize w'.destroySession session = r' at hdestroyed ⊢
  cases hdestroyed with
  | ok hsame hw => exact .ok hsame hw
  | error hw => exact .error hw

theorem parallel_closeDocument (he : EditorTwin σ e e') :
    Parallel Eq σ f (closeDocument act e) (closeDocument act e') := by
  have hleave : ∀ session, σ.first ≤ session →
      Parallel Eq σ f (leaveDocument act e session) (leaveDocument act e' session) :=
    fun session hid => parallel_leaveDocument he hid
  unfold closeDocument
  refine (parallel_advance .close).bind fun _ _ _ => ?_
  have hsession : e.session = e'.session := by
    obtain ⟨bus, rfl⟩ := he.same
    rfl
  rw [hsession]
  cases hs : e'.session with
  | none => exact .throw EditorError.noSession
  | some session =>
      have hid := he.session session hs
      refine Parallel.bind (P := Eq) (.modify fun w w' h => h.modifyEditor fun e e' he => ?_)
        fun _ _ _ => ?_
      · obtain ⟨bus, rfl⟩ := he.same
        exact ⟨⟨bus, rfl⟩, he.bus, fun _ hnone => (nomatch hnone), he.undoManager⟩
      refine Parallel.bind (P := Eq) (.modify fun w w' h => h.setEditing hid false)
        fun _ _ _ => ?_
      refine Parallel.bind (P := Eq) (.modify fun w w' h => h.attachToolbar he false)
        fun _ _ _ => ?_
      refine Parallel.bind (P := Eq) (Parallel.tryCatch (hleave session hid) fun cause => ?_)
        fun _ _ _ => parallel_advance .closed
      refine Parallel.bind (P := Eq) (.modify fun w w' h => h.detachRelays) fun _ _ _ => ?_
      refine Parallel.bind (P := Eq) (.modify fun w w' h => ?_) fun _ _ _ => ?_
      · obtain ⟨bus, rfl⟩ := he.same
        exact h.report e'.id (.unknownError cause.message)
      exact Parallel.bind (P := Eq) (.modify fun w w' h => h.dropSession hid)
        fun _ _ _ => .throw cause

/-! ## Other work -/

theorem parallel_destroyEditor (he : EditorTwin σ e e') :
    Parallel Eq σ f (destroyEditor e) (destroyEditor e') := by
  obtain ⟨bus, rfl⟩ := he.same
  unfold destroyEditor
  refine (parallel_advance .destroy).bind fun _ _ _ => ?_
  refine Parallel.bind (P := Eq) (.modifyGet fun w w' h => (h.tearDownAll ?_).eq) ?_
  · intro action hmem w w' h
    obtain ⟨part, -, rfl⟩ := List.mem_map.1 hmem
    exact h.tearDownPart e'.frontend part fun _ _ hw => hw
  rintro result _ rfl
  refine Parallel.bind (P := Eq) (.modify fun w w' h => h.modifyEditor fun e e' he => ?_)
    fun _ _ _ => ?_
  · obtain ⟨bus, rfl⟩ := he.same
    exact ⟨⟨bus.clear, rfl⟩, he.bus.clear, he.session, he.undoManager⟩
  cases result with
  | ok _ => exact .pure rfl
  | error cause => exact .throw _

theorem parallel_setUser (he : EditorTwin σ e e') (user : MemberProperties) :
    Parallel Eq σ f (setUser act e user) (setUser act e' user) := by
  have hopen : openSession? e = openSession? e' := by
    obtain ⟨bus, rfl⟩ := he.same
    rfl
  unfold setUser
  refine Parallel.bind (P := Eq) (.modify fun w w' h => h.modifyEditor fun e e' he =>
    he.change (fun e => { e with user := user.withDefaults }) (fun _ => rfl) rfl rfl rfl)
    fun _ _ _ => ?_
  rw [hopen]
  cases hs : openSession? e' with
  | none => exact .pure rfl
  | some session =>
      intro w w' h
      have hedited : Answers Eq σ f (w.edit act session (.updateMember user.withDefaults))
          (w'.edit act session (.updateMember user.withDefaults)) :=
        h.edit (he.session session (session_of_openSession? hs)) _
      simp only [Attempt.result_of]
      generalize w.edit act session (.updateMember user.withDefaults) = r at hedited ⊢
      generalize w'.edit act session (.updateMember user.withDefaults) = r' at hedited ⊢
      cases hedited with
      | ok _ hw => exact .ok rfl hw
      | error hw => exact .error hw

theorem parallel_setMetadata (he : EditorTwin σ e e') (set : Dict String String)
    (removed : List String) :
    Parallel Eq σ f (setMetadata act e set removed) (setMetadata act e' set removed) := by
  obtain ⟨bus, rfl⟩ := he.same
  have hopen : openSession? (e'.renumber σ.engine bus) = openSession? e' := rfl
  unfold setMetadata
  rw [hopen]
  cases openSession? e' with
  | none => exact .throw EditorError.noSession
  | some session =>
      exact parallel_byEngine fun w w' h => h.submit [.updateMetadata e'.member set removed]

end Editors

end Workspace

end Coedit
