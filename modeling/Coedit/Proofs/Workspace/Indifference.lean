import Coedit.Proofs.Editor.Indifference
import Coedit.Proofs.Workspace.Nesting

/-!
# Commands do not notice remnants

Every command gets the same reply with remnants and without them, up to numbers in it: the engine
counts its subscribers when it is asked to.
-/

namespace Coedit.Workspace

open Attempt (Concurs)

section Commands

variable {σ : Remnants} {busy : Nat → Nat} {w v : Workspace} {act : Conduct}

theorem Counterpart.replies (h : Counterpart σ busy w v) (reply : Reply) :
    Replies σ busy (reply, w) (reply, v) := ⟨rfl, h⟩

theorem Concur.reply {ε : Type} {r r' : Except ε Unit × Workspace} (h : Concur σ busy r r')
    (failure : ε → Failure) :
    Replies σ busy (Workspace.reply failure r) (Workspace.reply failure r') := by
  cases h with
  | intro answer hdone => cases answer <;> exact ⟨rfl, hdone⟩

/-! ## Commands to the engine -/

theorem Counterpart.addObserver (h : Counterpart σ busy w v) (label : String)
    (actions : List Command) (times : Nat) :
    Counterpart σ busy (w.addObserver label actions times) (v.addObserver label actions times) := by
  have hnumbered := h.number
  exact h.alike (f := Workspace.addObserver label actions times) (fun _ _ _ => rfl)
    (hnumbered.proper.congr rfl rfl rfl rfl rfl) (hnumbered.paced.congr rfl rfl)

/-- What can be asked of an engine does not depend on its subscribers, their number apart. -/
theorem Counterpart.answer (h : Counterpart σ busy w v) (query : EngineQuery) :
    (Reply.engine (v.engine.answer query)).unnumbered =
      (Reply.engine (w.engine.answer query)).unnumbered := by
  obtain ⟨sessions, log, rfl⟩ := h.same
  cases query <;> rfl

theorem Counterpart.doEngine (h : Counterpart σ busy w v) (hact : Indifferent act)
    (c : EngineCommand) : Replies σ busy (w.doEngine act c) (v.doEngine act c) := by
  cases c with
  | register url document =>
      exact ⟨rfl, h.withEngine (f := (·.register url document)) (fun _ _ => rfl) fun _ => rfl⟩
  | load url =>
      have hfiles : v.files = w.files := h.common (·.files) fun _ _ _ => rfl
      simp only [Workspace.doEngine, hfiles]
      exact (h.loadDocument w.files url).reply .engine
  | close => exact (h.closeEngine hact).reply .engine
  | flush => exact ⟨rfl, h.flush hact⟩
  | failNextClose reason =>
      exact ⟨rfl, h.withEngine (f := fun e => { e with closeFailure := some reason })
        (fun _ _ => rfl) fun _ => rfl⟩
  | setImmediate on =>
      exact ⟨rfl, h.withEngine (f := fun e => { e with immediate := on }) (fun _ _ => rfl)
        fun _ => rfl⟩
  | refuse signals operations =>
      exact ⟨rfl, h.alike (f := fun w => { w with refusals := { signals, operations } })
        (fun _ _ _ => rfl) (h.proper.congr rfl rfl rfl rfl rfl) (h.paced.congr rfl rfl)⟩
  | enqueue batch => exact (h.enqueue hact batch).reply .engine
  | takeSubmitted =>
      have hsubmitted : v.engine.submitted = w.engine.submitted :=
        h.common (·.engine.submitted) fun _ _ _ => rfl
      refine ⟨?_, h.withEngine (f := fun e => { e with submitted := [] }) (fun _ _ => rfl)
        fun _ => rfl⟩
      simp only [Workspace.doEngine, hsubmitted]
  | unsubscribe signal id => exact ⟨rfl, h.unsubscribe signal id⟩
  | ask query => exact ⟨h.answer query, h⟩

theorem Counterpart.watchEngine (h : Counterpart σ busy w v) (signal : EngineSignal)
    (label : String) (actions : List Command) (times : Nat) :
    Replies σ busy (w.watchEngine signal label actions times)
      (v.watchEngine signal label actions times) := by
  have hsubscribed := h.subscribeEngine signal (.observer w.nextId) rfl
  unfold Workspace.watchEngine
  rw [← h.nextId] at hsubscribed ⊢
  obtain ⟨cause, hw, hv⟩ | ⟨id, e, e', hw, hv, hmade⟩ := hsubscribed
  · rw [hw, hv]
    exact h.replies _
  · rw [hw, hv]
    exact (hmade.addObserver label actions times).replies _

/-! ## Who holds what -/

theorem Counterpart.withHolds (h : Counterpart σ busy w v) (holds : List (Place × Access)) :
    Counterpart σ busy { w with holds } { v with holds } :=
  h.alike (f := fun w => { w with holds }) (fun _ _ _ => rfl) (h.proper.congr rfl rfl rfl rfl rfl)
    (h.paced.congr rfl rfl)

theorem Counterpart.holding (h : Counterpart σ busy w v) (place : Place) (access : Access)
    {job : Workspace → Reply × Workspace}
    (hjob : ∀ holds, Replies σ busy (job { w with holds }) (job { v with holds })) :
    Replies σ busy (w.holding place access job) (v.holding place access job) := by
  have hholds : v.holds = w.holds := h.common (·.holds) fun _ _ _ => rfl
  have hfree : v.isFree place access = w.isFree place access := by
    unfold isFree
    rw [hholds]
  have hdone := hjob ((place, access) :: w.holds)
  unfold Workspace.holding
  rw [hfree, hholds]
  split
  · exact ⟨hdone.reply, hdone.after.withHolds w.holds⟩
  · exact h.replies _

/-- The session that a command means is somebody's. -/
theorem owns_of_meantSession {place : Place} {id : Nat}
    (h : w.meantSession = some (place, some id)) : w.Owns id := by
  unfold meantSession at h
  cases he : w.editor with
  | some e =>
      rw [he] at h
      obtain ⟨-, hopen⟩ := Prod.mk.inj (Option.some.inj h)
      exact .inr ⟨e, he, session_of_openSession? hopen⟩
  | none =>
      rw [he] at h
      cases hs : w.standalone with
      | none =>
          rw [hs] at h
          cases h
      | some other =>
          rw [hs] at h
          obtain ⟨-, hsame⟩ := Prod.mk.inj (Option.some.inj h)
          exact .inl (hs.trans hsame)

theorem Counterpart.withSession (h : Counterpart σ busy w v) (access : Access)
    {job : Nat → Workspace → Reply × Workspace}
    (hjob : ∀ id w v, σ.ended id = false → Counterpart σ busy w v →
      Replies σ busy (job id w) (job id v)) :
    Replies σ busy (w.withSession access job) (v.withSession access job) := by
  have hmeant : v.meantSession = w.meantSession := h.common (·.meantSession) fun _ _ _ => rfl
  unfold Workspace.withSession
  rw [hmeant]
  split
  · rename_i place id hid
    exact h.holding place access fun holds =>
      hjob id _ _ (not_ended_of_owns h.proper (owns_of_meantSession hid)) (h.withHolds holds)
  · exact h.holding _ access fun holds => (h.withHolds holds).replies _
  · exact h.replies _

theorem Counterpart.withEditor (h : Counterpart σ busy w v) (access : Access)
    {job : Editor → Workspace → Reply × Workspace}
    (hjob : ∀ e w v, w.editor = some e → Counterpart σ busy w v →
      Replies σ busy (job e w) (job e v)) :
    Replies σ busy (w.withEditor access job) (v.withEditor access job) := by
  unfold Workspace.withEditor
  rw [h.editor]
  cases he : w.editor with
  | none => exact h.replies _
  | some e => exact h.holding .editor access fun holds => hjob e _ _ he (h.withHolds holds)

/-! ## Commands to sessions -/

theorem Counterpart.doSession (h : Counterpart σ busy w v) (hact : Indifferent act) {id : Nat}
    (hid : σ.ended id = false) (c : SessionCommand) :
    Replies σ busy (w.doSession act id c) (v.doSession act id c) := by
  have hundo : ∀ (f : UndoManager Nat → Bool),
      ((v.sessions.get? id).bind v.inputUndoManager?).any f =
        ((w.sessions.get? id).bind w.inputUndoManager?).any f := by
    intro f
    rw [h.session hid]
    unfold inputUndoManager?
    rw [h.undoManagers]
  cases c with
  | unsubscribe signal subscription =>
      exact ⟨rfl, h.keepSession hid fun _ => ⟨rfl, rfl, rfl, List.filter_sublist.subset⟩⟩
  | ask query =>
      simp only [Workspace.doSession, h.session hid]
      cases w.sessions.get? id with
      | none => exact h.replies _
      | some s =>
          simp only [h.askSession s query]
          exact h.replies _
  | edit e =>
      have hedited := h.edit hact hid e
      simp only [Workspace.doSession]
      generalize w.edit act id e = r at hedited ⊢
      generalize v.edit act id e = r' at hedited ⊢
      cases hedited with
      | intro answer hdone => cases answer <;> exact hdone.replies _
  | undo =>
      simp only [Workspace.doSession, hundo]
      exact h.replies _
  | redo =>
      simp only [Workspace.doSession, hundo]
      exact h.replies _

/-- A new observer watches the session. -/
theorem Counterpart.join (h : Counterpart σ busy w v) {id : Nat} (hid : σ.ended id = false)
    {s : Session} (hs : w.sessions.get? id = some s) {signal : SessionSignal}
    {made : Nat × SignalBus SessionSignal Nat}
    (hmade : s.bus.subscribe signal w.nextId = .ok made) (label : String)
    (actions : List Command) (times : Nat) :
    Counterpart σ busy
      ((w.modifySession id fun s => { s with bus := made.2 }).addObserver label actions times)
      ((v.modifySession id fun s => { s with bus := made.2 }).addObserver label actions times) := by
  have hobserver := h.addObserver label actions times
  have hnew : Newcomer σ (w.addObserver label actions times) w.nextId :=
    { number := Nat.lt_succ_self _
      watches := fun other hwatch => Nat.lt_irrefl _ (h.proper.watches w.nextId other hwatch)
      watched := by
        cases hwatched : σ.watched w.nextId with
        | none => rfl
        | some other => exact absurd (h.proper.watched _ other hwatched).1 (Nat.lt_irrefl _) }
  refine hobserver.changed (f := fun s => { s with bus := made.2 })
    (hobserver.proper.changeSession hid (fun _ hs => hs) (fun _ _ => rfl)
      (fun _ _ huses => .inl huses) fun s' hs' sub hsub => ?_)
    (hobserver.paced.changeSession id fun _ => rfl)
  obtain rfl := Option.some.inj (hs.symm.trans hs')
  rcases SignalBus.mem_of_subscribe hmade hsub with hold | hlast
  · exact .inl hold
  · rw [hlast]
    exact .inr hnew

theorem Counterpart.watchSession (h : Counterpart σ busy w v) {id : Nat} (hid : σ.ended id = false)
    (signal : SessionSignal) (label : String) (actions : List Command) (times : Nat) :
    Replies σ busy (watchSession signal label actions times id w)
      (watchSession signal label actions times id v) := by
  unfold Workspace.watchSession
  rw [h.session hid, h.nextId]
  cases hs : w.sessions.get? id with
  | none => exact h.replies _
  | some s =>
      simp only
      cases hmade : s.bus.subscribe signal w.nextId with
      | error cause => exact h.replies _
      | ok made => exact (h.join hid hs hmade label actions times).replies _

theorem Counterpart.doInput (h : Counterpart σ busy w v) (hact : Indifferent act) {id : Nat}
    (hid : σ.ended id = false) (c : InputCommand) :
    Replies σ busy (w.doInput act id c) (v.doInput act id c) := by
  cases c with
  | insertCursor => exact (h.submitFor hact hid .addCursor).reply .engine
  | removeCursor => exact (h.submitFor hact hid .removeCursor).reply .engine
  | setUndoManager =>
      have hset : Concur σ busy (w.createUndoManager.2.setUndoManager id w.nextId)
          (v.createUndoManager.2.setUndoManager id w.nextId) :=
        h.createUndoManager.after.setUndoManager hid (Nat.lt_succ_self _)
          (not_ended_of_next h.proper (Nat.le_refl _)).2.2
      show Replies σ busy
        (Workspace.reply .engine (w.createUndoManager.2.setUndoManager id w.nextId))
        (Workspace.reply .engine (v.createUndoManager.2.setUndoManager id v.nextId))
      rw [h.nextId]
      exact hset.reply .engine
  | startEditing => exact ⟨rfl, h.setEditing hid true⟩
  | endEditing => exact ⟨rfl, h.setEditing hid false⟩

/-- Another session becomes the standalone one, or none. -/
theorem Counterpart.withStandalone (h : Counterpart σ busy w v) (standalone : Option Nat)
    (hstandalone : ∀ id, standalone = some id → Awaiting σ w id) :
    Counterpart σ busy { w with standalone } { v with standalone } := by
  have hproper : Proper σ { w with standalone } :=
    { h.proper with
      owned := by
        rintro id (hid | heditor)
        · exact (hstandalone id hid).unclaimed.1
        · exact h.proper.owned id (.inr heditor)
      single := by
        intro e id he hid hsame
        exact (hstandalone id hsame).unclaimed.2 (.inr ⟨e, he, hid⟩)
      released := by
        refine fun id hreleased => ⟨(h.proper.released id hreleased).1, ?_⟩
        rintro (hid | heditor)
        · rw [(hstandalone id hid).stays] at hreleased
          cases hreleased
        · exact (h.proper.released id hreleased).2 (.inr heditor)
      awaited := by
        intro id hawaited
        obtain ⟨hstays, hattached, hunowned⟩ := h.proper.awaited id hawaited
        refine ⟨hstays, hattached, ?_⟩
        rintro (hid | heditor)
        · rw [(hstandalone id hid).free] at hawaited
          cases hawaited
        · exact hunowned (.inr heditor)
      spare := fun id hspare => ⟨(h.proper.spare id hspare).1,
        (h.proper.spare id hspare).2.informed, (h.proper.spare id hspare).2.editor,
        (h.proper.spare id hspare).2.sessions⟩ }
  exact h.alike (f := fun w => { w with standalone }) (fun _ _ _ => rfl) hproper
    (h.paced.congr rfl rfl)

/-- The standalone session gives way to the new one, and nobody has it any more. -/
theorem Counterpart.installSession (h : Counterpart σ busy w v) {id : Nat}
    (hid : Awaiting σ w id) :
    Counterpart σ busy (w.installSession id) (v.installSession id) := by
  have hinstalled := h.withStandalone (some id) fun other hsame => by
    obtain rfl := Option.some.inj hsame
    exact hid
  have hstandalone : v.standalone = w.standalone := h.common (·.standalone) fun _ _ _ => rfl
  unfold Workspace.installSession
  rw [hstandalone]
  cases hs : w.standalone with
  | none => exact hinstalled
  | some older =>
      refine hinstalled.dropSession (not_ended_of_owns h.proper (.inl hs))
        (not_awaited_of_owns h.proper (.inl hs)) ?_
      rintro (hsame | ⟨e, he, holder⟩)
      · obtain rfl := Option.some.inj hsame
        exact hid.unclaimed.2 (.inl hs)
      · exact h.proper.single e older he holder hs

theorem Counterpart.newSession (h : Counterpart σ busy w v) (spec : SessionSpec) :
    Replies σ busy (w.newSession spec) (v.newSession spec) := by
  have hcreated := h.createSession spec .all
  unfold Workspace.newSession
  generalize hr : w.createSession spec .all = r at hcreated ⊢
  generalize v.createSession spec .all = r' at hcreated ⊢
  cases hcreated with
  | @intro w' v' answer hdone =>
      cases answer with
      | error cause => exact hdone.replies _
      | ok id =>
          have hwaits := awaiting_createSession h.proper hr
          have hfree : v'.isFree .standalone .exclusive = w'.isFree .standalone .exclusive :=
            hdone.common (·.isFree .standalone .exclusive) fun _ _ _ => rfl
          simp only
          rw [hfree]
          split
          · exact (hdone.installSession hwaits).replies _
          · exact (hdone.dropSession (σ.not_ended hwaits.stays) hwaits.free
              hwaits.unclaimed.2).replies _

/-- The standalone session is taken from its place, and then destroyed. -/
theorem Counterpart.destroyStandalone (h : Counterpart σ busy w v) :
    Replies σ busy w.destroyStandalone v.destroyStandalone := by
  have hstandalone : v.standalone = w.standalone := h.common (·.standalone) fun _ _ _ => rfl
  unfold Workspace.destroyStandalone
  rw [hstandalone]
  cases hs : w.standalone with
  | none => exact h.replies _
  | some id =>
      refine h.holding .standalone .exclusive fun holds => ?_
      have hended := not_ended_of_owns h.proper (.inl hs)
      obtain ⟨s, hrecord, -⟩ := h.proper.owned id (.inl hs)
      have htaken := (h.withHolds holds).withStandalone none
        fun _ hnone => nomatch hnone
      have hunowned : ¬ Owns { w with holds, standalone := none } id := by
        rintro (hnone | ⟨e, he, hid⟩)
        · cases hnone
        · exact h.proper.single e id he hid hs
      have hreleased := htaken.release hrecord hunowned (not_awaited_of_owns h.proper (.inl hs))
      exact (hreleased.destroySession hended (σ.released_release id)).of_release.reply .teardown

/-! ## Commands to the editor -/

theorem concurs_destroyEditor (e : Editor) : Concurs σ busy (destroyEditor e) := by
  unfold destroyEditor
  refine (concurs_advance .destroy).bind fun _ => Concurs.bind (.modifyGet fun w v h => ?_)
    fun result => ?_
  · refine Counterpart.tearDownAll h fun action hmem w v hw => ?_
    obtain ⟨part, -, rfl⟩ := List.mem_map.1 hmem
    exact hw.tearDownPart e.frontend part fun _ _ hw => hw
  refine Concurs.bind (.modify fun w v h => h.keepEditor (fun _ => rfl) fun _ => rfl) fun _ => ?_
  cases result with
  | ok _ => exact .pure _
  | error cause => exact .throw _

theorem Counterpart.setUser (h : Counterpart σ busy w v) (hact : Indifferent act) {e : Editor}
    (he : w.editor = some e) (user : MemberProperties) :
    Concur σ busy ((Workspace.setUser act e user).result w)
      ((Workspace.setUser act e user).result v) := by
  have hset : Concurs σ busy (Workspace.setUser act e user) := by
    unfold Workspace.setUser
    refine Concurs.bind (.modify fun w v h => h.keepEditor (fun _ => rfl) fun _ => rfl) fun _ => ?_
    cases hopen : openSession? e with
    | none => exact .pure _
    | some session =>
        have hid := not_ended_of_owns h.proper (.inr ⟨e, he, session_of_openSession? hopen⟩)
        intro w v h
        have hedited := h.edit hact hid (.updateMember user.withDefaults)
        simp only [Attempt.result_of]
        generalize w.edit act session _ = r at hedited ⊢
        generalize v.edit act session _ = r' at hedited ⊢
        cases hedited with
        | intro answer hdone => cases answer <;> exact .intro _ hdone
  exact hset w v h

theorem concurs_setMetadata (hact : Indifferent act) (e : Editor) (set : Dict String String)
    (removed : List String) : Concurs σ busy (setMetadata act e set removed) := by
  unfold setMetadata
  cases openSession? e with
  | none => exact .throw _
  | some session =>
      exact concurs_byEngine fun w v h => h.submit hact [.updateMetadata e.member set removed]

theorem Counterpart.doEditor (h : Counterpart σ busy w v) (hact : Indifferent act) {e : Editor}
    (he : w.editor = some e) (c : EditorCommand) :
    Replies σ busy (w.doEditor act e c) (v.doEditor act e c) := by
  have hmodified : v.isModified e = w.isModified e := by
    unfold isModified
    rw [h.undoManagers]
  cases c with
  | «open» url =>
      have hfiles : v.files = w.files := h.common (·.files) fun _ _ _ => rfl
      simp only [Workspace.doEditor, hfiles]
      exact (concurs_openDocument hact w.files e url w v h).reply .editor
  | close => exact (h.closeDocument hact he).reply .editor
  | destroy => exact (concurs_destroyEditor e w v h).reply .editor
  | setUser user => exact (h.setUser hact he user).reply .editor
  | status =>
      simp only [Workspace.doEditor, editorStatus, hmodified]
      exact h.replies _
  | profile => exact h.replies _
  | setMetadata set removed => exact (concurs_setMetadata hact e set removed w v h).reply .editor
  | metadata property =>
      have hmetadata : v.metadata? e property = w.metadata? e property :=
        h.common (·.metadata? e property) fun _ _ _ => rfl
      simp only [Workspace.doEditor, hmetadata]
      cases w.metadata? e property <;> exact h.replies _
  | isModified =>
      simp only [Workspace.doEditor, hmodified]
      exact h.replies _
  | setModified modified =>
      simp only [Workspace.doEditor]
      cases e.undoManager with
      | none => exact h.replies _
      | some id => exact (h.setModified hact id modified).replies _
  | unsubscribe signal id => exact ⟨rfl, h.keepEditor (fun _ => rfl) fun _ => rfl⟩

theorem Counterpart.watchEditor (h : Counterpart σ busy w v) (signal : EditorSignal)
    (label : String) (actions : List Command) (times : Nat) (e : Editor) :
    Replies σ busy (watchEditor signal label actions times e w)
      (watchEditor signal label actions times e v) := by
  unfold Workspace.watchEditor
  rw [h.nextId]
  cases e.bus.subscribe signal w.nextId with
  | error cause => exact h.replies _
  | ok made =>
      have hsubscribed := h.keepEditor (f := fun e => { e with bus := made.2 }) (fun _ => rfl)
        fun _ => rfl
      exact (hsubscribed.addObserver label actions times).replies _

/-- The new editor has no session yet, and nobody has that of the old one any more. -/
theorem Counterpart.createEditor (h : Counterpart σ busy w v) (spec : EditorSpec) :
    Counterpart σ busy (w.createEditor spec) (v.createEditor spec) := by
  have hrenewed : ∀ e : Editor, e.session = none → e.undoManager = none → Counterpart σ busy
      { w with
        nextId := w.nextId + 1, replaced := w.editor.toList ++ w.replaced, editor := some e }
      { v with
        nextId := v.nextId + 1, replaced := v.editor.toList ++ v.replaced, editor := some e } := by
    intro e hsession hmanager
    have hset := h.number.setEditor (e := e) (fun id hid => nomatch hsession.symm.trans hid)
      fun id hid => nomatch hmanager.symm.trans hid
    exact h.alike
      (f := fun w => { w with
        nextId := w.nextId + 1, replaced := w.editor.toList ++ w.replaced, editor := some e })
      (fun _ _ _ => rfl) (hset.proper.congr rfl rfl rfl rfl rfl) (hset.paced.congr rfl rfl)
  unfold Workspace.createEditor
  rw [h.nextId, h.editor] at hrenewed ⊢
  cases hs : w.editor.bind (·.session) with
  | none => exact hrenewed _ rfl rfl
  | some older =>
      obtain ⟨e, he, holder⟩ := Option.bind_eq_some_iff.1 hs
      refine (hrenewed _ rfl rfl).dropSession
        (not_ended_of_owns h.proper (.inr ⟨e, he, holder⟩))
        (not_awaited_of_owns h.proper (.inr ⟨e, he, holder⟩)) ?_
      rintro (hstandalone | ⟨e', he', hid⟩)
      · exact h.proper.single e older he holder hstandalone
      · obtain rfl := Option.some.inj he'
        cases hid

/-! ## All commands -/

theorem indifferent_step (hact : Indifferent act) : Indifferent (step act) := by
  intro σ busy w v c h
  cases c with
  | engine c => exact h.doEngine hact c
  | session c => exact h.withSession .shared fun id _ _ hid h => h.doSession hact hid c
  | input c => exact h.withSession .exclusive fun id _ _ hid h => h.doInput hact hid c
  | editor c => exact h.withEditor (editorAccess c) fun e _ _ he h => h.doEditor hact he c
  | newSession spec => exact h.newSession spec
  | destroySession => exact h.destroyStandalone
  | newEditor spec =>
      show Replies σ busy (w.holding .editor .exclusive fun w => (.done, w.createEditor spec))
        (v.holding .editor .exclusive fun w => (.done, w.createEditor spec))
      exact h.holding .editor .exclusive fun holds =>
        ((h.withHolds holds).createEditor spec).replies _
  | watchEngine signal label actions times => exact h.watchEngine signal label actions times
  | watchSession signal label actions times =>
      exact h.withSession .shared fun id _ _ hid h => h.watchSession hid signal label actions times
  | watchEditor signal label actions times =>
      exact h.withEditor .shared fun e _ _ _ h => h.watchEditor signal label actions times e
  | undecodable => exact h.replies _

theorem indifferent_perform (depth : Nat) : Indifferent (perform depth) := by
  induction depth with
  | zero => exact fun _ _ _ _ _ h => ⟨rfl, h⟩
  | succ depth ih => exact indifferent_step ih

/-- Whatever is commanded, and whatever comes of it, the remnants make no difference. -/
theorem indifferent_conduct : Indifferent conduct := by
  intro σ busy w v c h
  unfold conduct execute
  rw [h.potential]
  exact indifferent_perform _ c h

end Commands

end Coedit.Workspace
