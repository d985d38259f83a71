import Coedit.Proofs.Workspace.Quiet

/-!
# A session follows its engine

With observers that only listen, what a session knows after a flush depends on what it knew
before and on the batches alone: it hears the events of each batch after the batch was applied,
one for each of its subscriptions, and reacts to them in order.
-/

namespace Coedit.Workspace

def Knows (id : Nat) (core : SessionCore) (w : Workspace) : Prop :=
  ∃ s, w.sessions.get? id = some s ∧ s.attached = true ∧ s.core = core

/-- The events that a session hears, by its subscriptions. -/
def heardBy (bus : SignalBus EngineSignal EngineListener) (id : Nat)
    (events : List EngineEvent) : List EngineEvent :=
  events.flatMap fun event =>
    ((bus.handlers event.signal).filter (· = .session id)).map fun _ => event

section Follow

variable {id : Nat} {core : SessionCore} {w : Workspace}

theorem knows_told {w' : Workspace} (h : Told w w') (hk : Knows id core w) :
    Knows id core w' := by
  obtain ⟨observers, log, undoManagers, rfl, -⟩ := h
  exact hk

/-- A change of a session that leaves its knowledge and its owner alone. -/
theorem knows_modifySession {other : Nat} {f : Session → Session}
    (hcore : ∀ s, (f s).core = s.core) (hattached : ∀ s, (f s).attached = s.attached)
    (hk : Knows id core w) : Knows id core (w.modifySession other f) := by
  obtain ⟨s, hs, hatt, rfl⟩ := hk
  by_cases hid : other = id
  · refine ⟨f s, ?_, (hattached s).trans hatt, hcore s⟩
    simp [modifySession, Dict.get?_modify, hid, hs]
  · refine ⟨s, ?_, hatt, rfl⟩
    simp [modifySession, Dict.get?_modify, hid, hs]

/-! ## The session's own reactions -/

theorem knows_reactOnce (act : Conduct) (reaction : Reaction) (h : w.Quiet)
    (hk : Knows id core w) :
    Knows id (core.react w.engine.replica reaction).1 (w.reactOnce act id reaction) := by
  obtain ⟨s, hs, hatt, rfl⟩ := hk
  have hknown : Knows id (s.core.react w.engine.replica reaction).1 (w.modifySession id fun old =>
      { old with core := (s.core.react w.engine.replica reaction).1 }) := by
    refine ⟨{ s with core := (s.core.react w.engine.replica reaction).1 }, ?_, hatt, rfl⟩
    simp [modifySession, Dict.get?_modify, hs]
  unfold reactOnce
  rw [hs]
  simp only
  cases (s.core.react w.engine.replica reaction).2 with
  | none => exact hknown
  | some event => exact knows_told (told_announce act id event (by exact h)) hknown

theorem knows_reactions (act : Conduct) (reactions : List Reaction) (h : w.Quiet)
    (hk : Knows id core w) :
    Knows id (reactions.foldl (fun s reaction => (s.react w.engine.replica reaction).1) core)
      (reactions.foldl (reactOnce act id) w) := by
  induction reactions generalizing core w with
  | nil => exact hk
  | cons reaction rest ih =>
      have hheard := heard_reactOnce act id reaction h
      have hrest := ih hheard.quiet (knows_reactOnce act reaction h hk)
      rw [hheard.engine] at hrest
      exact hrest

theorem knows_beginReaction (other : Nat) (hk : Knows id core w) :
    Knows id core (w.modifySession other fun s => { s with reacting := s.reacting + 1 }) :=
  knows_modifySession (by intro s; rfl) (by intro s; rfl) hk

theorem knows_endReaction (other : Nat) (hk : Knows id core w) :
    Knows id core (w.modifySession other fun s => { s with reacting := s.reacting - 1 }) :=
  knows_modifySession (by intro s; rfl) (by intro s; rfl) hk

theorem knows_sessionHears (act : Conduct) (event : EngineEvent) (h : w.Quiet)
    (hk : Knows id core w) :
    Knows id (core.hear w.engine.replica event) (w.sessionHears act event id) := by
  have hbegin := knows_beginReaction id hk
  obtain ⟨s, hs, hatt, rfl⟩ := hk
  unfold sessionHears
  rw [hs]
  simp only [hatt, Bool.true_or, if_true]
  exact knows_endReaction id
    (knows_reactions act (s.core.reactions w.engine.replica event) (by exact h) hbegin)

/-! ## Those of others -/

theorem knows_reactOnce_of_ne {other : Nat} (hid : other ≠ id) (act : Conduct)
    (reaction : Reaction) (h : w.Quiet) (hk : Knows id core w) :
    Knows id core (w.reactOnce act other reaction) := by
  unfold reactOnce
  cases ho : w.sessions.get? other with
  | none => exact hk
  | some o =>
      have hknown : Knows id core (w.modifySession other fun old =>
          { old with core := (o.core.react w.engine.replica reaction).1 }) := by
        obtain ⟨s, hs, hatt, hcore⟩ := hk
        refine ⟨s, ?_, hatt, hcore⟩
        simp [modifySession, Dict.get?_modify, hid, hs]
      simp only
      cases (o.core.react w.engine.replica reaction).2 with
      | none => exact hknown
      | some event => exact knows_told (told_announce act other event (by exact h)) hknown

theorem knows_sessionHears_of_ne {other : Nat} (hid : other ≠ id) (act : Conduct)
    (event : EngineEvent) (h : w.Quiet) (hk : Knows id core w) :
    Knows id core (w.sessionHears act event other) := by
  have hreact : ∀ (reactions : List Reaction) {w : Workspace}, w.Quiet → Knows id core w →
      Knows id core (reactions.foldl (reactOnce act other) w) := by
    intro reactions
    induction reactions with
    | nil => exact fun _ hk => hk
    | cons reaction rest ih =>
        exact fun h hk => ih (heard_reactOnce act other reaction h).quiet
          (knows_reactOnce_of_ne hid act reaction h hk)
  unfold sessionHears
  cases w.sessions.get? other with
  | none => exact hk
  | some o =>
      simp only
      split
      · exact knows_endReaction other
          (hreact _ (by exact h) (knows_beginReaction other hk))
      · exact hk

theorem knows_hear_of_ne {listener : EngineListener} (hid : listener ≠ .session id)
    (act : Conduct) (event : EngineEvent) (h : w.Quiet) (hk : Knows id core w) :
    Knows id core (w.hear act event listener) := by
  cases listener with
  | session other =>
      have hne : other ≠ id := by
        rintro rfl
        exact hid rfl
      exact knows_sessionHears_of_ne hne act event h hk
  | undoManager other => exact knows_told (told_inform act other h) hk
  | metadataRelay editor =>
      cases event with
      | metadataChanged set removed =>
          exact knows_told (told_report act editor (.metadataChanged set removed) h) hk
      | _ => exact hk
  | observer other => exact knows_told (told_notify act (.engine event) other h) hk

/-! ## Events, batches and flushes -/

theorem knows_listeners (act : Conduct) (event : EngineEvent) (listeners : List EngineListener)
    (h : w.Quiet) (hk : Knows id core w) :
    Knows id (((listeners.filter (· = .session id)).map fun _ => event).foldl
        (SessionCore.hear w.engine.replica) core)
      (listeners.foldl (fun w listener => w.hear act event listener) w) := by
  induction listeners generalizing core w with
  | nil => exact hk
  | cons listener rest ih =>
      have hheard := heard_hear act event listener h
      by_cases hid : listener = .session id
      · subst hid
        have hrest := ih hheard.quiet (knows_sessionHears act event h hk)
        rw [hheard.engine] at hrest
        simpa using hrest
      · have hrest := ih hheard.quiet (knows_hear_of_ne hid act event h hk)
        rw [hheard.engine] at hrest
        simpa [hid] using hrest

theorem knows_publishAll (act : Conduct) (events : List EngineEvent) (h : w.Quiet)
    (hk : Knows id core w) :
    Knows id ((heardBy w.engine.bus id events).foldl (SessionCore.hear w.engine.replica) core)
      (events.foldl (publish act) w) := by
  induction events generalizing core w with
  | nil => exact hk
  | cons event rest ih =>
      have hheard := heard_publish act event h
      have hfirst := knows_listeners act event (w.engine.bus.handlers event.signal) h hk
      have hrest := ih hheard.quiet hfirst
      rw [hheard.engine] at hrest
      unfold heardBy at hrest ⊢
      rw [List.flatMap_cons, List.foldl_append]
      exact hrest

/-- What a session knows after a flush. -/
theorem knows_flush (h : w.Quiet) (hk : Knows id core w) :
    Knows id (w.engine.pending.foldl (SessionCore.follow (heardBy w.engine.bus id))
      (core, w.engine.replica)).1 (w.flush conduct) := by
  generalize hb : w.engine.pending = batches
  induction batches generalizing core w with
  | nil =>
      rw [flush_of_nil hb]
      exact hk
  | cons batch rest ih =>
      have hquiet : (w.withApplied batch rest).Quiet := h
      have hheard := heard_publishAll conduct (w.engine.replica.applyBatch batch).2 hquiet
      have hfirst := knows_publishAll conduct (w.engine.replica.applyBatch batch).2 hquiet hk
      rw [flush_of_cons frugal_conduct hb]
      have hrest := ih hheard.quiet hfirst (by rw [hheard.engine]; rfl)
      rw [hheard.engine] at hrest
      exact hrest

end Follow

end Coedit.Workspace
