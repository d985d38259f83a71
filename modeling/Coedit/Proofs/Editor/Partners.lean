import Coedit.Proofs.Editor.Proceeding
import Coedit.Proofs.Workspace.Hearing

/-!
# An editor and its session

The session that an editor works with has the editor's member and user interface. What the two
subscribed to the engine since the editor was created was given numbers of its own, so to end
these subscriptions takes nothing away from anybody else.
-/

namespace Coedit

namespace Workspace

open Attempt (Triple)

/-- The numbers on the engine's bus were given in order, those from `first` on to subscriptions
that are new. -/
structure Ordered (first : Nat) (w : Workspace) : Prop where
  bounded : ∀ s ∈ w.engine.bus.subscriptions, s.id < w.engine.bus.nextId
  later : first ≤ w.engine.bus.nextId

/-- A number of a new subscription, which is not an observer's. -/
structure Fresh (first number : Nat) (w : Workspace) : Prop where
  new : first ≤ number
  given : number < w.engine.bus.nextId
  own : ∀ s ∈ w.engine.bus.subscriptions, s.id = number → s.handler.observer? = none

/-- A session with the member and the user interface of an editor, and with new subscriptions. -/
def Partner (spec : EditorSpec) (first id : Nat) (w : Workspace) : Prop :=
  ∃ s, w.sessions.get? id = some s ∧ s.core.member = spec.member ∧ s.frontend = spec.frontend ∧
    ∀ record ∈ s.records, Fresh first record.2 w

/-- The editor is as it was created, its own subscription is new, and its session is a
partner. -/
structure Matched (spec : EditorSpec) (first : Nat) (e : Editor) (w : Workspace) : Prop where
  member : e.member = spec.member
  frontend : e.frontend = spec.frontend
  relay : ∀ number, e.metadataSubscription = some number → Fresh first number w
  session : ∀ id, e.session = some id → id < w.nextId ∧ Partner spec first id w

structure Partnered (spec : EditorSpec) (first : Nat) (w : Workspace) : Prop where
  ordered : Ordered first w
  matched : ∀ e, w.editor = some e → Matched spec first e w

/-- Whatever else happened, batches were accepted, and subscriptions were made and ended; new
ones stayed new, and partners stayed partners. -/
structure Keeps (spec : EditorSpec) (first : Nat) (w w' : Workspace) : Prop where
  quiet : w'.Quiet
  nextId : w.nextId ≤ w'.nextId
  ordered : Ordered first w → Ordered first w'
  fresh : Ordered first w → ∀ number, Fresh first number w → Fresh first number w'
  partner : Ordered first w → ∀ id, id < w.nextId → Partner spec first id w →
    Partner spec first id w'
  carried : ∃ accepted, w'.engine.submitted = w.engine.submitted ++ accepted ∧
    w'.engine.upshot = accepted.foldl (fun r batch => (r.applyBatch batch).1) w.engine.upshot

section Keeps

variable {spec : EditorSpec} {first : Nat} {w w' w'' : Workspace}

theorem Ordered.congr (h : Ordered first w) (hbus : w'.engine.bus = w.engine.bus) :
    Ordered first w' :=
  ⟨by rw [hbus]; exact h.bounded, by rw [hbus]; exact h.later⟩

theorem Fresh.congr {number : Nat} (h : Fresh first number w)
    (hbus : w'.engine.bus = w.engine.bus) : Fresh first number w' :=
  ⟨h.new, by rw [hbus]; exact h.given, by rw [hbus]; exact h.own⟩

theorem Keeps.trans (h : Keeps spec first w w') (h' : Keeps spec first w' w'') :
    Keeps spec first w w'' where
  quiet := h'.quiet
  nextId := Nat.le_trans h.nextId h'.nextId
  ordered := fun hw => h'.ordered (h.ordered hw)
  fresh := fun hw number hnumber => h'.fresh (h.ordered hw) number (h.fresh hw number hnumber)
  partner := fun hw id hid hpartner =>
    h'.partner (h.ordered hw) id (Nat.lt_of_lt_of_le hid h.nextId) (h.partner hw id hid hpartner)
  carried := by
    obtain ⟨accepted, hsubmitted, hupshot⟩ := h.carried
    obtain ⟨later, hsubmitted', hupshot'⟩ := h'.carried
    exact ⟨accepted ++ later, by rw [hsubmitted', hsubmitted, List.append_assoc],
      by rw [hupshot', hupshot, List.foldl_append]⟩

/-- A change that makes no subscription and leaves the queue and the papers of the sessions as
they are. -/
theorem keeps_of_fewer (hquiet : w'.Quiet) (hnextId : w.nextId ≤ w'.nextId)
    (hsubscriptions : ∀ s ∈ w'.engine.bus.subscriptions, s ∈ w.engine.bus.subscriptions)
    (hnumbers : w'.engine.bus.nextId = w.engine.bus.nextId)
    (hpapers : ∀ id s, w.sessions.get? id = some s → ∃ s', w'.sessions.get? id = some s' ∧
      s'.core.member = s.core.member ∧ s'.frontend = s.frontend ∧
      ∀ record ∈ s'.records, record ∈ s.records)
    (hcarried : ∃ accepted, w'.engine.submitted = w.engine.submitted ++ accepted ∧
      w'.engine.upshot = accepted.foldl (fun r batch => (r.applyBatch batch).1) w.engine.upshot) :
    Keeps spec first w w' := by
  have hfresh : ∀ number, Fresh first number w → Fresh first number w' := fun number h =>
    ⟨h.new, by rw [hnumbers]; exact h.given, fun s hs => h.own s (hsubscriptions s hs)⟩
  refine ⟨hquiet, hnextId, fun h => ⟨?_, by rw [hnumbers]; exact h.later⟩, fun _ => hfresh, ?_,
    hcarried⟩
  · intro s hs
    rw [hnumbers]
    exact h.bounded s (hsubscriptions s hs)
  · rintro - id - ⟨s, hs, hmember, hfrontend, hrecords⟩
    obtain ⟨s', hs', hmember', hfrontend', hrecords'⟩ := hpapers id s hs
    exact ⟨s', hs', hmember'.trans hmember, hfrontend'.trans hfrontend,
      fun record hrecord => hfresh _ (hrecords record (hrecords' record hrecord))⟩

/-- The subscriptions and the papers of the sessions are as they were. -/
theorem keeps_of_papers (hquiet : w'.Quiet) (hnextId : w.nextId ≤ w'.nextId)
    (hbus : w'.engine.bus = w.engine.bus)
    (hpapers : ∀ id,
      (w'.sessions.get? id).map Session.papers = (w.sessions.get? id).map Session.papers)
    (hcarried : ∃ accepted, w'.engine.submitted = w.engine.submitted ++ accepted ∧
      w'.engine.upshot = accepted.foldl (fun r batch => (r.applyBatch batch).1) w.engine.upshot) :
    Keeps spec first w w' := by
  refine keeps_of_fewer hquiet hnextId ?_ ?_ ?_ hcarried
  · rw [hbus]
    exact fun s hs => hs
  · rw [hbus]
  · intro id s hs
    have hsame := hpapers id
    rw [hs] at hsame
    obtain ⟨s', hs', hs'papers⟩ := Option.map_eq_some_iff.1 hsame
    simp only [Session.papers, Prod.mk.injEq] at hs'papers
    obtain ⟨hmember, hfrontend, hrecords⟩ := hs'papers
    exact ⟨s', hs', hmember, hfrontend, fun record hrecord => hrecords ▸ hrecord⟩

theorem Proceeds.keeps {accepted : List Batch} (h : Proceeds accepted w w') :
    Keeps spec first w w' :=
  keeps_of_papers h.quiet h.nextId h.bus h.papers ⟨accepted, h.submitted, h.upshot⟩

theorem Keeps.refl (h : w.Quiet) : Keeps spec first w w := (Proceeds.refl h).keeps

/-- Nothing that matters here was changed. -/
theorem keeps_of_same (hquiet : w'.Quiet) (hnextId : w.nextId ≤ w'.nextId)
    (hengine : w'.engine = w.engine) (hsessions : w'.sessions = w.sessions) :
    Keeps spec first w w' := by
  refine keeps_of_fewer hquiet hnextId ?_ ?_ ?_ ⟨[], ?_, ?_⟩
  · rw [hengine]
    exact fun s hs => hs
  · rw [hengine]
  · intro id s hs
    exact ⟨s, by rw [hsessions]; exact hs, rfl, rfl, fun record hrecord => hrecord⟩
  · rw [hengine, List.append_nil]
  · rw [hengine]
    rfl

/-! ## Subscriptions -/

theorem ordered_subscribed (h : Ordered first w) (signal : EngineSignal)
    (listener : EngineListener) :
    Ordered first { w with engine := subscribed w.engine signal listener } where
  bounded := by
    intro s hs
    show s.id < w.engine.bus.nextId + 1
    rcases List.mem_append.1 hs with hold | hnew
    · have hbounded := h.bounded s hold
      omega
    · rw [List.mem_singleton.1 hnew]
      exact Nat.lt_succ_self _
  later := Nat.le_succ_of_le h.later

theorem Fresh.subscribed {number : Nat} (h : Fresh first number w) (signal : EngineSignal)
    (listener : EngineListener) :
    Fresh first number { w with engine := subscribed w.engine signal listener } where
  new := h.new
  given := Nat.lt_succ_of_lt h.given
  own := by
    intro s hs hid
    rcases List.mem_append.1 hs with hold | hnew
    · exact h.own s hold hid
    · have hgiven := h.given
      rw [List.mem_singleton.1 hnew] at hid
      exact absurd hid (Nat.ne_of_gt hgiven)

/-- The number of a subscription that was just made. -/
theorem fresh_subscribed (h : Ordered first w) (signal : EngineSignal) {listener : EngineListener}
    (hlistener : listener.observer? = none) :
    Fresh first w.engine.bus.nextId { w with engine := subscribed w.engine signal listener } where
  new := h.later
  given := Nat.lt_succ_self _
  own := by
    intro s hs hid
    rcases List.mem_append.1 hs with hold | hnew
    · exact absurd hid (Nat.ne_of_lt (h.bounded s hold))
    · rw [List.mem_singleton.1 hnew]
      exact hlistener

theorem keeps_subscribed (h : w.Quiet) (signal : EngineSignal) (listener : EngineListener) :
    Keeps spec first w { w with engine := subscribed w.engine signal listener } := by
  refine ⟨h, Nat.le_refl _, fun hw => ordered_subscribed hw signal listener,
    fun _ number hnumber => hnumber.subscribed signal listener, ?_, ⟨[], ?_, rfl⟩⟩
  · rintro - id - ⟨s, hs, hmember, hfrontend, hrecords⟩
    exact ⟨s, hs, hmember, hfrontend,
      fun record hrecord => (hrecords record hrecord).subscribed signal listener⟩
  · exact (List.append_nil _).symm

theorem keeps_unsubscribe (h : w.Quiet) (signal : EngineSignal) (number : Nat) :
    Keeps spec first w (w.unsubscribe signal number) := by
  refine keeps_of_fewer h (Nat.le_refl _) (fun s hs => (List.mem_filter.1 hs).1) rfl ?_
    ⟨[], ?_, rfl⟩
  · exact fun id s hs => ⟨s, hs, rfl, rfl, fun record hrecord => hrecord⟩
  · exact (List.append_nil _).symm

/-- What a session records of new subscriptions is fresh. -/
theorem fresh_subscribeSession (h : Ordered first w) (hquiet : w.Quiet) {id : Nat}
    {signals : List EngineSignal} {made made' : List (EngineSignal × Nat)}
    (hmade : ∀ record ∈ made, Fresh first record.2 w)
    (heq : subscribeSession id made signals w = (.ok made', w')) :
    Keeps spec first w w' ∧ ∀ record ∈ made', Fresh first record.2 w' := by
  induction signals generalizing made w with
  | nil =>
      simp only [subscribeSession, Prod.mk.injEq, Except.ok.injEq] at heq
      obtain ⟨rfl, rfl⟩ := heq
      exact ⟨Keeps.refl hquiet, hmade⟩
  | cons signal rest ih =>
      unfold subscribeSession at heq
      rcases subscribe_cases signal (.session id) w with ⟨cause, hcause⟩ | hok
      · simp [hcause] at heq
      · simp only [hok] at heq
        have hkeeps : Keeps spec first w
            { w with engine := subscribed w.engine signal (.session id) } :=
          keeps_subscribed hquiet signal (.session id)
        obtain ⟨hrest, hall⟩ := ih (hkeeps.ordered h) hkeeps.quiet (fun record hrecord => by
          rcases List.mem_append.1 hrecord with hold | hnew
          · exact (hmade record hold).subscribed signal _
          · rw [List.mem_singleton.1 hnew]
            exact fresh_subscribed h signal rfl) heq
        exact ⟨hkeeps.trans hrest, hall⟩

/-! ## Sessions -/

/-- A new session is a partner of an editor like it. -/
theorem keeps_createSession (hordered : Ordered first w) (hquiet : w.Quiet) {session : SessionSpec}
    {features : FeatureSet} {id : Nat} (hmember : session.member = spec.member)
    (hfrontend : session.frontend = spec.frontend)
    (heq : w.createSession session features = (.ok id, w')) :
    Keeps spec first w w' ∧ w'.editor = w.editor ∧ id < w'.nextId ∧ Partner spec first id w' := by
  obtain ⟨log, hlog⟩ := interfaceNote_eq session.frontend
    (.components session.member features) w
  unfold createSession at heq
  simp only [hlog] at heq
  split at heq
  · cases heq
  · rename_i made w₁ hmade
    have hstart : Keeps spec first w { w with log, nextId := w.nextId + 1 } :=
      keeps_of_same hquiet (Nat.le_succ _) rfl rfl
    obtain ⟨engine, rfl, -⟩ := subscribeSession_spec hmade
    obtain ⟨hkeeps, hfresh⟩ : Keeps spec first _ _ ∧ _ :=
      fresh_subscribeSession (hstart.ordered hordered) hstart.quiet
        (fun record hrecord => (List.not_mem_nil hrecord).elim) hmade
    simp only [Prod.mk.injEq, Except.ok.injEq] at heq
    obtain ⟨rfl, rfl⟩ := heq
    have hall := hstart.trans hkeeps
    refine ⟨⟨hall.quiet, hall.nextId, fun h => (hall.ordered h).congr rfl,
      fun h number hnumber => (hall.fresh h number hnumber).congr rfl, ?_, hall.carried⟩, rfl,
      Nat.lt_succ_self _, ?_⟩
    · intro h other hother hpartner
      obtain ⟨s, hs, hmember, hfrontend, hrecords⟩ := hall.partner h other hother hpartner
      refine ⟨s, ?_, hmember, hfrontend, fun record hrecord => (hrecords record hrecord).congr rfl⟩
      show (w.sessions.insert w.nextId _).get? other = some s
      rw [Dict.get?_insert, if_neg (Nat.ne_of_gt hother)]
      exact hs
    · refine ⟨newSessionState session made, Dict.get?_insert_self _ _ _, hmember, hfrontend, ?_⟩
      intro record hrecord
      have hmade : record ∈ made := by
        simpa [Session.records, newSessionState] using hrecord
      exact (hfresh record hmade).congr rfl

/-- A change of one session that leaves its member and its user interface alone, and records
nothing but what is fresh. -/
theorem keeps_modifySession (hquiet : w.Quiet) (id : Nat) {f : Session → Session}
    (hmember : ∀ s, (f s).core.member = s.core.member)
    (hfrontend : ∀ s, (f s).frontend = s.frontend)
    (hrecords : ∀ s, ∀ record ∈ (f s).records, record ∈ s.records ∨ Fresh first record.2 w) :
    Keeps spec first w (w.modifySession id f) := by
  refine ⟨hquiet, Nat.le_refl _, fun h => h.congr rfl, fun _ number h => h.congr rfl, ?_,
    ⟨[], (List.append_nil _).symm, rfl⟩⟩
  rintro - other - ⟨s, hs, hsmember, hsfrontend, hsrecords⟩
  by_cases hid : id = other
  · have hf : (w.modifySession id f).sessions.get? other = some (f s) := by
      rw [modifySession, Dict.get?_modify, if_pos hid, hs]
      rfl
    refine ⟨f s, hf, (hmember s).trans hsmember, (hfrontend s).trans hsfrontend, ?_⟩
    intro record hrecord
    rcases hrecords s record hrecord with hold | hnew
    · exact (hsrecords record hold).congr rfl
    · exact hnew.congr rfl
  · have hsame : (w.modifySession id f).sessions.get? other = some s := by
      rw [modifySession, Dict.get?_modify, if_neg hid]
      exact hs
    exact ⟨s, hsame, hsmember, hsfrontend,
      fun record hrecord => (hsrecords record hrecord).congr rfl⟩

theorem keeps_dropUndoSubscription (hquiet : w.Quiet) (id : Nat) :
    Keeps spec first w (w.dropUndoSubscription id) := by
  unfold dropUndoSubscription
  split
  · exact Keeps.refl hquiet
  · rename_i subscription _
    have hended : Keeps spec first w (w.unsubscribe .undoStackChanged subscription) :=
      keeps_unsubscribe hquiet .undoStackChanged subscription
    refine hended.trans (keeps_modifySession hended.quiet id ?_ ?_ ?_)
    · exact fun _ => rfl
    · exact fun _ => rfl
    · intro s record hrecord
      refine .inl (List.mem_append_left _ ?_)
      simpa [Session.records] using hrecord

theorem editor_dropUndoSubscription (id : Nat) (w : Workspace) :
    (w.dropUndoSubscription id).editor = w.editor := by
  unfold dropUndoSubscription
  split <;> rfl

theorem keeps_setUndoManager (hordered : Ordered first w) (hquiet : w.Quiet) (id manager : Nat) :
    Keeps spec first w (w.setUndoManager id manager).2 := by
  have hdropped : Keeps spec first w (w.dropUndoSubscription id) :=
    keeps_dropUndoSubscription hquiet id
  have hsubscribed : Keeps spec first (w.dropUndoSubscription id) _ :=
    keeps_subscribed hdropped.quiet .undoStackChanged (.undoManager manager)
  refine of_setUndoManager hdropped ((hdropped.trans hsubscribed).trans
    (keeps_modifySession hsubscribed.quiet id ?_ ?_ ?_))
  · exact fun _ => rfl
  · exact fun _ => rfl
  · intro s record hrecord
    simp only [Session.records, Option.toList_some, List.map_cons, List.map_nil, List.mem_append,
      List.mem_singleton] at hrecord
    rcases hrecord with hold | hnew
    · exact .inl (List.mem_append_left _ hold)
    · rw [hnew]
      exact .inr (fresh_subscribed (hdropped.ordered hordered) _ rfl)

theorem editor_setUndoManager (id manager : Nat) (w : Workspace) :
    (w.setUndoManager id manager).2.editor = w.editor := by
  have hdropped := editor_dropUndoSubscription id w
  exact of_setUndoManager (P := fun v => v.editor = w.editor) hdropped hdropped

/-! ## Editors -/

theorem Matched.keeps {e : Editor} (h : Matched spec first e w) (hordered : Ordered first w)
    (hkeeps : Keeps spec first w w') : Matched spec first e w' where
  member := h.member
  frontend := h.frontend
  relay := fun number hnumber => hkeeps.fresh hordered number (h.relay number hnumber)
  session := by
    intro id hid
    obtain ⟨hlt, hpartner⟩ := h.session id hid
    exact ⟨Nat.lt_of_lt_of_le hlt hkeeps.nextId, hkeeps.partner hordered id hlt hpartner⟩

theorem Partnered.keeps (h : Partnered spec first w) (hkeeps : Keeps spec first w w')
    (heditor : w'.editor = w.editor) : Partnered spec first w' where
  ordered := hkeeps.ordered h.ordered
  matched := fun e he => (h.matched e (heditor ▸ he)).keeps h.ordered hkeeps

/-- Nothing that matters here was changed about the editor. -/
theorem Matched.alike {e e' : Editor} (h : Matched spec first e w)
    (hmember : e'.member = e.member) (hfrontend : e'.frontend = e.frontend)
    (hrelay : e'.metadataSubscription = e.metadataSubscription)
    (hsession : e'.session = e.session) : Matched spec first e' w where
  member := hmember.trans h.member
  frontend := hfrontend.trans h.frontend
  relay := fun number hnumber => h.relay number (hrelay ▸ hnumber)
  session := fun id hid => h.session id (hsession ▸ hid)

theorem Matched.congr {e : Editor} (h : Matched spec first e w)
    (hbus : w'.engine.bus = w.engine.bus) (hsessions : w'.sessions = w.sessions)
    (hnextId : w.nextId ≤ w'.nextId) : Matched spec first e w' where
  member := h.member
  frontend := h.frontend
  relay := fun number hnumber => (h.relay number hnumber).congr hbus
  session := by
    intro id hid
    obtain ⟨hlt, s, hs, hmember, hfrontend, hrecords⟩ := h.session id hid
    exact ⟨Nat.lt_of_lt_of_le hlt hnextId, s, by rw [hsessions]; exact hs, hmember, hfrontend,
      fun record hrecord => (hrecords record hrecord).congr hbus⟩

/-- A change of the editor to one that matches as well. -/
theorem Partnered.modifyEditor (h : Partnered spec first w) {f : Editor → Editor}
    (hf : ∀ e, w.editor = some e → Matched spec first e w → Matched spec first (f e) w) :
    Partnered spec first (w.modifyEditor f) where
  ordered := h.ordered.congr rfl
  matched := by
    intro e he
    obtain ⟨e', he', rfl⟩ := Option.map_eq_some_iff.1 he
    exact (hf e' he' (h.matched e' he')).congr rfl rfl (Nat.le_refl _)

end Keeps

end Workspace

end Coedit
