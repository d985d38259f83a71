import Coedit.Proofs.Editor.Holding

/-!
# Subscriptions that are refused

A session that may not subscribe to all that it relays takes back the subscriptions that it has
made. Since numbers are never given twice, it takes nothing else: the bus is left as it was.
-/

namespace Coedit.Workspace

variable {bus : SignalBus EngineSignal EngineListener} {w : Workspace} {signal : EngineSignal}

/-- What was just subscribed to and unsubscribed from has left no subscription. -/
theorem unsubscribe_joined (h : bus.Numbered) (listener : EngineListener) :
    ((joined bus signal listener).unsubscribe signal bus.nextId).subscriptions =
      bus.subscriptions := by
  have hold : bus.subscriptions.filter (fun s => !(s.kind == signal && s.id == bus.nextId)) =
      bus.subscriptions := by
    refine List.filter_eq_self.2 fun s hs => ?_
    simp [Nat.ne_of_lt (h s hs)]
  simp only [SignalBus.unsubscribe, joined, List.filter_append, hold]
  simp

/-! ## The subscriptions of a session -/

def relayedBy (session : Nat) (bus : SignalBus EngineSignal EngineListener) :
    SignalBus EngineSignal EngineListener :=
  relayedSignals.foldl (fun bus signal => joined bus signal (.session session)) bus

/-- The subscriptions of a session, when `first` is the next number that the bus will give. -/
def relays (session first : Nat) : List (Subscription EngineSignal EngineListener) :=
  (relayedSignals.zipIdx first).map fun entry =>
    { id := entry.2, kind := entry.1, handler := .session session }

theorem subscriptions_relayedBy (session : Nat) (bus : SignalBus EngineSignal EngineListener) :
    (relayedBy session bus).subscriptions = bus.subscriptions ++ relays session bus.nextId := by
  simp [relayedBy, relays, joined, relayedSignals]

theorem bus_subscribedAll (session : Nat) (signals : List EngineSignal)
    (engine : Engine EngineListener) : (subscribedAll session signals engine).bus =
      signals.foldl (fun bus signal => joined bus signal (.session session)) engine.bus := by
  induction signals generalizing engine with
  | nil => rfl
  | cons signal rest ih => exact ih (subscribed engine signal (.session session))

theorem declared_relayedBy (session : Nat) (bus : SignalBus EngineSignal EngineListener) :
    (relayedBy session bus).declared = bus.declared :=
  List.foldlRecOn (motive := fun after : SignalBus EngineSignal EngineListener =>
    after.declared = bus.declared) _ _ rfl fun _ h _ _ => h

theorem numbered_relayedBy (session : Nat) (h : bus.Numbered) :
    (relayedBy session bus).Numbered :=
  List.foldlRecOn (motive := SignalBus.Numbered) _ _ h
    fun _ h signal _ => numbered_joined h signal (.session session)

/-! ## Refusals -/

theorem subscribe_of_refused (h : w.admits signal = false) (listener : EngineListener) :
    ∃ cause, w.subscribe signal listener = (.error cause, w) := by
  unfold subscribe Engine.subscribe SignalBus.subscribe SignalBus.checkDeclared
  cases hrefused : w.refusals.signals.contains signal.name with
  | true => exact ⟨_, rfl⟩
  | false =>
      have hundeclared : w.engine.bus.isDeclared signal = false := by
        rw [admits, hrefused] at h
        simpa using h
      rw [hundeclared]
      exact ⟨_, rfl⟩

def stays (made : List (EngineSignal × Nat)) (s : Subscription EngineSignal EngineListener) :
    Bool :=
  made.all fun record => !(s.kind == record.1 && s.id == record.2)

theorem subscriptions_unsubscribeAll (made : List (EngineSignal × Nat)) (w : Workspace) :
    (made.foldl (fun w s => w.unsubscribe s.1 s.2) w).engine.bus.subscriptions =
      w.engine.bus.subscriptions.filter (stays made) := by
  induction made generalizing w with
  | nil => exact (List.filter_eq_self.2 fun _ _ => rfl).symm
  | cons record rest ih =>
      rw [List.foldl_cons, ih]
      show (w.engine.bus.subscriptions.filter _).filter (stays rest) = _
      rw [List.filter_filter]
      refine List.filter_congr fun s _ => ?_
      simp [stays, Bool.and_comm]

/-- A session that cannot subscribe to all that it relays takes back what it has. -/
theorem subscribeSession_of_refused {signals : List EngineSignal}
    (hrefused : ∃ signal ∈ signals, w.admits signal = false)
    (hnumbered : w.engine.bus.Numbered) (id : Nat)
    {made : List (EngineSignal × Nat)} (hmade : ∀ record ∈ made, record.2 < w.engine.bus.nextId) :
    ∃ cause bus, subscribeSession id made signals w =
        (.error cause, { w with engine := { w.engine with bus } }) ∧
      bus.subscriptions = w.engine.bus.subscriptions.filter (stays made) := by
  induction signals generalizing made w with
  | nil =>
      obtain ⟨signal, hmem, -⟩ := hrefused
      cases hmem
  | cons signal rest ih =>
      unfold subscribeSession
      cases hadmits : w.admits signal with
      | false =>
          obtain ⟨cause, heq⟩ := subscribe_of_refused hadmits (.session id)
          obtain ⟨bus, hended, -⟩ := unsubscribeAll_eq made w
          refine ⟨cause, bus, by rw [heq, ← hended], ?_⟩
          rw [← subscriptions_unsubscribeAll, hended]
      | true =>
          rw [subscribe_of_admits hadmits]
          have hrest : ∃ other ∈ rest,
              admits { w with engine := subscribed w.engine signal (.session id) } other =
                false := by
            obtain ⟨other, hmem, hother⟩ := hrefused
            rcases List.mem_cons.1 hmem with rfl | hmem
            · rw [hadmits] at hother
              cases hother
            · exact ⟨other, hmem, hother⟩
          have hnumbers : ∀ record ∈ made ++ [(signal, w.engine.bus.nextId)],
              record.2 < w.engine.bus.nextId + 1 := by
            intro record hrecord
            rcases List.mem_append.1 hrecord with hold | hnew
            · exact Nat.lt_succ_of_lt (hmade record hold)
            · rw [List.mem_singleton.1 hnew]
              exact Nat.lt_succ_self _
          have hsubscribed := (apart_subscribed signal (.session id) w).numbered hnumbered
          obtain ⟨cause, bus, heq, hstays⟩ := ih hrest hsubscribed hnumbers
          refine ⟨cause, bus, heq, hstays.trans ?_⟩
          have hold : w.engine.bus.subscriptions.filter
              (stays (made ++ [(signal, w.engine.bus.nextId)])) =
                w.engine.bus.subscriptions.filter (stays made) := by
            refine List.filter_congr fun s hs => ?_
            simp [stays, Nat.ne_of_lt (hnumbered s hs)]
          show List.filter _ (w.engine.bus.subscriptions ++ [_]) = _
          rw [List.filter_append, hold]
          simp [stays]

/-- An engine that refuses one of the relays is left as it was. -/
theorem createSession_of_refused
    (hrefused : ∃ signal ∈ relayedSignals, w.admits signal = false)
    (hnumbered : w.engine.bus.Numbered) (spec : SessionSpec) (features : FeatureSet) :
    ∃ cause bus log, w.createSession spec features =
        (.error cause, { w with engine := { w.engine with bus }, log, nextId := w.nextId + 1 }) ∧
      bus.subscriptions = w.engine.bus.subscriptions := by
  obtain ⟨log, hlog⟩ := interfaceNote_eq spec.frontend (.components spec.member features) w
  have hthis : ∃ signal ∈ relayedSignals,
      admits { w with log, nextId := w.nextId + 1 } signal = false := hrefused
  have hmade : ∀ record ∈ ([] : List (EngineSignal × Nat)), record.2 < w.engine.bus.nextId :=
    fun _ hmem => (List.not_mem_nil hmem).elim
  obtain ⟨cause, bus, heq, hstays⟩ := subscribeSession_of_refused hthis hnumbered w.nextId hmade
  unfold createSession
  simp only [hlog, heq]
  exact ⟨cause, bus, log, rfl, hstays.trans (List.filter_eq_self.2 fun _ _ => rfl)⟩

end Coedit.Workspace
