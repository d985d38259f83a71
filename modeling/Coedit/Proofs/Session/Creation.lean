import Coedit.Workspace.Sessions

/-!
# Creating sessions

A session that was created is subscribed to every signal that it relays, and keeps a record of
each subscription. Nothing else about the engine changes.
-/

namespace Coedit.Workspace

/-! ## One subscription -/

def subscribed (e : Engine EngineListener) (signal : EngineSignal) (listener : EngineListener) :
    Engine EngineListener :=
  { e with bus := { e.bus with
      subscriptions := e.bus.subscriptions ++
        [{ id := e.bus.nextId, kind := signal, handler := listener }]
      nextId := e.bus.nextId + 1 } }

theorem subscribe_cases (signal : EngineSignal) (listener : EngineListener) (w : Workspace) :
    (∃ cause, w.subscribe signal listener = (.error cause, w)) ∨
      w.subscribe signal listener = (.ok w.engine.bus.nextId,
        { w with engine := subscribed w.engine signal listener }) := by
  unfold subscribe Engine.subscribe SignalBus.subscribe
  split
  · exact .inl ⟨_, rfl⟩
  · cases w.engine.bus.checkDeclared signal with
    | error cause => exact .inl ⟨_, rfl⟩
    | ok _ => exact .inr rfl

/-- An input controller that cannot subscribe has let go of its former undo manager all the same. -/
theorem of_setUndoManager {P : Workspace → Prop} {w : Workspace} {id manager : Nat}
    (hdropped : P (w.dropUndoSubscription id))
    (hset : P ({ w.dropUndoSubscription id with
        engine := subscribed (w.dropUndoSubscription id).engine .undoStackChanged
          (.undoManager manager) }.modifySession id fun s =>
      { s with input := { s.input with
          undoManager := some manager
          undoSubscription := some (w.dropUndoSubscription id).engine.bus.nextId } })) :
    P (w.setUndoManager id manager).2 := by
  unfold setUndoManager
  rcases subscribe_cases .undoStackChanged (.undoManager manager) (w.dropUndoSubscription id) with
    ⟨cause, hcause⟩ | hok
  · rw [hcause]
    exact hdropped
  · rw [hok]
    exact hset

/-- Whether the engine lets sessions and editors subscribe to a signal. -/
def admits (w : Workspace) (signal : EngineSignal) : Bool :=
  !w.refusals.signals.contains signal.name && w.engine.bus.isDeclared signal

theorem subscribe_of_admits {w : Workspace} {signal : EngineSignal} (h : w.admits signal = true)
    (listener : EngineListener) :
    w.subscribe signal listener = (.ok w.engine.bus.nextId,
      { w with engine := subscribed w.engine signal listener }) := by
  simp only [admits, Bool.and_eq_true, Bool.not_eq_true'] at h
  unfold subscribe Engine.subscribe SignalBus.subscribe SignalBus.checkDeclared
  rw [h.1, h.2]
  rfl

/-- Nothing is refused, and every signal can be subscribed to. -/
structure Welcoming (w : Workspace) : Prop where
  refusals : w.refusals = {}
  declared : ∀ signal, w.engine.bus.isDeclared signal = true

theorem Welcoming.admits {w : Workspace} (h : w.Welcoming) (signal : EngineSignal) :
    w.admits signal = true := by
  unfold Workspace.admits
  rw [h.refusals, h.declared signal]
  rfl

theorem subscribe_of_welcoming {w : Workspace} (h : w.Welcoming) (signal : EngineSignal)
    (listener : EngineListener) :
    w.subscribe signal listener = (.ok w.engine.bus.nextId,
      { w with engine := subscribed w.engine signal listener }) :=
  subscribe_of_admits (h.admits signal) listener

theorem welcoming_subscribed {w : Workspace} (h : w.Welcoming) (signal : EngineSignal)
    (listener : EngineListener) :
    Welcoming { w with engine := subscribed w.engine signal listener } where
  refusals := h.refusals
  declared := h.declared

theorem welcoming_of_declared {w : Workspace} {bus : SignalBus EngineSignal EngineListener}
    (h : w.Welcoming) (hdeclared : bus.declared = w.engine.bus.declared) :
    Welcoming { w with engine := { w.engine with bus } } where
  refusals := h.refusals
  declared := by
    intro signal
    have hold := h.declared signal
    unfold SignalBus.isDeclared at hold ⊢
    simp only [hdeclared, hold]

theorem mem_handlers_subscribed {e : Engine EngineListener} {signal other : EngineSignal}
    {listener found : EngineListener} :
    found ∈ (subscribed e signal listener).bus.handlers other ↔
      found ∈ e.bus.handlers other ∨ signal = other ∧ found = listener := by
  unfold subscribed SignalBus.handlers
  simp only [List.filter_append, List.map_append, List.mem_append]
  by_cases hsignal : signal = other
  · subst hsignal
    simp
  · simp [hsignal]

/-! ## All of them -/

def subscribedAll (id : Nat) (signals : List EngineSignal) (e : Engine EngineListener) :
    Engine EngineListener :=
  signals.foldl (fun e signal => subscribed e signal (.session id)) e

/-- Subscribing changes nothing about an engine but its bus. -/
theorem subscribedAll_eq (id : Nat) (signals : List EngineSignal) (e : Engine EngineListener) :
    ∃ bus, subscribedAll id signals e = { e with bus } ∧ bus.declared = e.bus.declared := by
  unfold subscribedAll
  induction signals generalizing e with
  | nil => exact ⟨e.bus, rfl, rfl⟩
  | cons signal rest ih =>
      obtain ⟨bus, heq, hdeclared⟩ := ih (subscribed e signal (.session id))
      exact ⟨bus, heq, hdeclared⟩

/-- What the subscriptions of a session come to: `made` grows to `made'`, which records every
new one. -/
structure Subscribed (id : Nat) (signals : List EngineSignal) (e e' : Engine EngineListener)
    (made made' : List (EngineSignal × Nat)) : Prop where
  engine : e' = subscribedAll id signals e
  kept : ∀ entry ∈ made, entry ∈ made'
  recorded : ∀ s ∈ e'.bus.subscriptions, s ∈ e.bus.subscriptions ∨ (s.kind, s.id) ∈ made'
  hears : ∀ signal ∈ signals, .session id ∈ e'.bus.handlers signal
  heard : ∀ signal listener, listener ∈ e.bus.handlers signal →
    listener ∈ e'.bus.handlers signal

theorem Subscribed.cons {id : Nat} {signal : EngineSignal} {rest : List EngineSignal}
    {e e' : Engine EngineListener} {made made' : List (EngineSignal × Nat)}
    (h : Subscribed id rest (subscribed e signal (.session id)) e'
      (made ++ [(signal, e.bus.nextId)]) made') :
    Subscribed id (signal :: rest) e e' made made' where
  engine := h.engine
  kept := fun entry hmem => h.kept entry (List.mem_append_left _ hmem)
  recorded := by
    intro s hs
    rcases h.recorded s hs with hold | hnew
    · rcases List.mem_append.1 hold with hold | hold
      · exact .inl hold
      · rw [List.mem_singleton.1 hold]
        exact .inr (h.kept _ (by simp))
    · exact .inr hnew
  hears := by
    intro other hmem
    rcases List.mem_cons.1 hmem with rfl | hmem
    · exact h.heard other _ (mem_handlers_subscribed.2 (.inr ⟨rfl, rfl⟩))
    · exact h.hears other hmem
  heard := fun other listener hmem =>
    h.heard other listener (mem_handlers_subscribed.2 (.inl hmem))

theorem subscribeSession_spec {id : Nat} {signals : List EngineSignal}
    {made made' : List (EngineSignal × Nat)} {w w' : Workspace}
    (h : subscribeSession id made signals w = (.ok made', w')) :
    ∃ engine, w' = { w with engine } ∧ Subscribed id signals w.engine engine made made' := by
  induction signals generalizing made w with
  | nil =>
      simp only [subscribeSession, Prod.mk.injEq, Except.ok.injEq] at h
      obtain ⟨rfl, rfl⟩ := h
      exact ⟨w.engine, rfl, rfl, fun _ hmem => hmem, fun _ hs => .inl hs,
        fun _ hmem => (List.not_mem_nil hmem).elim, fun _ _ hmem => hmem⟩
  | cons signal rest ih =>
      unfold subscribeSession at h
      rcases subscribe_cases signal (.session id) w with ⟨cause, hcause⟩ | hok
      · simp [hcause] at h
      · simp only [hok] at h
        obtain ⟨engine, rfl, hrest⟩ := ih h
        exact ⟨engine, rfl, hrest.cons⟩

theorem subscribeSession_of_admits {w : Workspace} {signals : List EngineSignal}
    (h : ∀ signal ∈ signals, w.admits signal = true) (id : Nat)
    (made : List (EngineSignal × Nat)) :
    ∃ made' w', subscribeSession id made signals w = (.ok made', w') := by
  induction signals generalizing made w with
  | nil => exact ⟨made, w, rfl⟩
  | cons signal rest ih =>
      unfold subscribeSession
      rw [subscribe_of_admits (h signal List.mem_cons_self)]
      have hrest : ∀ other ∈ rest,
          admits { w with engine := subscribed w.engine signal (.session id) } other = true :=
        fun other hother => h other (List.mem_cons_of_mem _ hother)
      exact ih hrest _

/-! ## The session -/

def newSessionState (spec : SessionSpec) (made : List (EngineSignal × Nat)) : Session :=
  { core := { member := spec.member }
    frontend := spec.frontend
    subscriptions := made
    availableFonts := (spec.fontsCss.map Font.available).getD [] }

/-- What a user interface notes is only logged. -/
theorem interfaceNote_eq (frontend : Frontend) (note : InterfaceNote) (w : Workspace) :
    ∃ log, w.interfaceNote frontend note = { w with log } := by
  cases frontend with
  | headless => exact ⟨w.log, rfl⟩
  | recording failing => exact ⟨_, rfl⟩

/-- A new session knows nothing yet, and hears all that it relays. -/
theorem createSession_spec {spec : SessionSpec} {features : FeatureSet} {w w' : Workspace}
    {id : Nat} (h : w.createSession spec features = (.ok id, w')) :
    ∃ engine made log, id = w.nextId ∧
      w' = { w with
        engine, log, nextId := w.nextId + 1
        sessions := w.sessions.insert w.nextId (newSessionState spec made) } ∧
      Subscribed w.nextId relayedSignals w.engine engine [] made := by
  obtain ⟨log, hlog⟩ := interfaceNote_eq spec.frontend (.components spec.member features) w
  unfold createSession at h
  simp only [hlog] at h
  split at h
  · cases h
  · rename_i made w'' hmade
    obtain ⟨engine, rfl, hsubscribed⟩ := subscribeSession_spec hmade
    simp only [Prod.mk.injEq, Except.ok.injEq] at h
    obtain ⟨rfl, rfl⟩ := h
    exact ⟨engine, made, log, rfl, rfl, hsubscribed⟩

/-- A session can be created if it may subscribe to all that it relays. -/
theorem createSession_of_admits {w : Workspace}
    (h : ∀ signal ∈ relayedSignals, w.admits signal = true) (spec : SessionSpec)
    (features : FeatureSet) : ∃ w', w.createSession spec features = (.ok w.nextId, w') := by
  obtain ⟨log, hlog⟩ := interfaceNote_eq spec.frontend (.components spec.member features) w
  have hthis : ∀ signal ∈ relayedSignals,
      admits { w with log, nextId := w.nextId + 1 } signal = true := h
  obtain ⟨made, w', hmade⟩ := subscribeSession_of_admits hthis w.nextId []
  unfold createSession
  simp only [hlog, hmade]
  exact ⟨_, rfl⟩

theorem createSession_of_welcoming {w : Workspace} (h : w.Welcoming) (spec : SessionSpec)
    (features : FeatureSet) : ∃ w', w.createSession spec features = (.ok w.nextId, w') :=
  createSession_of_admits (fun signal _ => h.admits signal) spec features

end Coedit.Workspace
