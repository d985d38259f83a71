import Coedit.Proofs.Workspace.Deferral

/-!
# The order of deliveries

A flush from inside a delivery may apply and publish a later batch while an earlier event is still
due to some subscribers, and then these hear the later one first. Nothing else brings events out
of order: a subscriber hears the events of a kind as they were applied just as long as no batch
with an event of the kind is applied while an earlier one is due to it.
-/

namespace Coedit

namespace Dated

variable {listener : EngineListener} {signal : EngineSignal}

/-! ## A whole run -/

def Bounded (listener : EngineListener) (signal : EngineSignal) (before : List Nat) (d : Dated) :
    Prop :=
  ∀ k ∈ before ++ due listener signal d.tasks, k < d.happened.length

/-- What was heard before, and what is due after that, is in the order of the numbers. -/
def Ordered (listener : EngineListener) (signal : EngineSignal) (before : List Nat) (d : Dated) :
    Prop :=
  (before ++ due listener signal d.tasks).Pairwise (· ≤ ·)

def heardBy (listener : EngineListener) (signal : EngineSignal) (before : List Nat) (d : Dated) :
    List Nat :=
  before ++ (heard? listener signal d).toList

variable {before : List Nat} {d : Dated}

theorem heardBy_due (before : List Nat) (d : Dated) :
    heardBy listener signal before d ++ due listener signal d.next.tasks =
      before ++ coming listener signal d := List.append_assoc _ _ _

theorem bounded_next (h : Bounded listener signal before d) :
    Bounded listener signal (heardBy listener signal before d) d.next := by
  unfold Bounded at *
  rw [heardBy_due]
  intro k hk
  cases advance listener signal d with
  | published number rest hdue hcoming hhappened =>
      rw [hhappened]
      rw [hdue] at h
      rw [hcoming] at hk
      simp only [List.mem_append, List.mem_replicate, List.mem_cons] at h hk
      rcases hk with hk | ⟨-, rfl⟩ | hk
      · exact h k (.inl hk)
      · exact h k (.inr (.inl rfl))
      · exact h k (.inr (.inr hk))
  | happened events hcoming hhappened =>
      rw [hhappened, List.length_append]
      rw [hcoming, ← List.append_assoc, List.append_assoc, List.mem_append, List.mem_append] at hk
      rcases hk with hk | hk | hk
      · exact Nat.lt_add_right _ (h k (List.mem_append_left _ hk))
      · exact (mem_positions hk).2
      · exact Nat.lt_add_right _ (h k (List.mem_append_right _ hk))

/-- A step that overtakes nothing keeps the order. -/
theorem ordered_next (hbound : Bounded listener signal before d)
    (hfair : ¬ d.agenda.Overtakes listener signal) (h : Ordered listener signal before d) :
    Ordered listener signal (heardBy listener signal before d) d.next := by
  unfold Ordered at *
  rw [heardBy_due]
  cases advance listener signal d with
  | published number rest hdue hcoming =>
      rw [hdue, List.pairwise_append, List.pairwise_cons] at h
      obtain ⟨hbefore, ⟨hfirst, hrest⟩, hacross⟩ := h
      rw [hcoming, List.pairwise_append, List.pairwise_append]
      refine ⟨hbefore, ⟨?_, hrest, ?_⟩, ?_⟩
      · exact List.pairwise_replicate.2 (.inr (Nat.le_refl _))
      · intro k hk
        rw [(List.mem_replicate.1 hk).2]
        exact hfirst
      · intro k hk later hlater
        rcases List.mem_append.1 hlater with hlater | hlater
        · rw [(List.mem_replicate.1 hlater).2]
          exact hacross k hk number List.mem_cons_self
        · exact hacross k hk later (List.mem_cons_of_mem _ hlater)
  | happened events hcoming hhappened happlied hovertakes =>
      rw [hcoming]
      rw [hovertakes, not_and_or, ne_eq, ne_eq, not_not, not_not] at hfair
      rcases hfair with hnone | hnone
      · rw [hnone]
        exact h
      · rw [hnone, List.append_nil] at h ⊢
        rw [List.pairwise_append]
        refine ⟨h, (positions_sorted _ _ _).imp Nat.le_of_lt, fun k hk later hlater => ?_⟩
        have hlast := hbound k (List.mem_append_left _ hk)
        have hfirst := (mem_positions hlater).1
        omega

/-- A step that overtakes brings events out of order. -/
theorem not_ordered_next (hbound : Bounded listener signal before d)
    (hovertakes : d.agenda.Overtakes listener signal) :
    ¬ Ordered listener signal (heardBy listener signal before d) d.next := by
  unfold Ordered
  rw [heardBy_due]
  intro h
  cases advance listener signal d with
  | published number rest hdue hcoming hhappened hidle =>
      obtain ⟨batch, happlied, -⟩ := hovertakes
      exact hidle batch happlied
  | happened events hcoming hhappened happlied hiff =>
      obtain ⟨hnew, hold⟩ := hiff.1 hovertakes
      obtain ⟨later, hlater⟩ := List.exists_mem_of_ne_nil _ hnew
      obtain ⟨earlier, hearlier⟩ := List.exists_mem_of_ne_nil _ hold
      rw [hcoming] at h
      have hle := (List.pairwise_append.1 (List.pairwise_append.1 h).2.1).2.2 later hlater earlier
        hearlier
      have hlast := hbound earlier (List.mem_append_right _ hearlier)
      have hfirst := (mem_positions hlater).1
      omega

def Subscribed (listener : EngineListener) (signal : EngineSignal) (d : Dated) : Prop :=
  listener ∈ d.workspace.engine.bus.handlers signal

/-- As long as the listener is subscribed, nothing that is due is lost. -/
theorem sublist_next (h : Subscribed listener signal d) (before : List Nat) :
    (before ++ due listener signal d.tasks).Sublist
      (heardBy listener signal before d ++ due listener signal d.next.tasks) := by
  rw [heardBy_due]
  refine List.Sublist.append_left ?_ before
  cases advance listener signal d with
  | published number rest hdue hcoming =>
      rw [hdue, hcoming, ← List.singleton_append]
      refine List.Sublist.append_right (List.singleton_sublist.2 (List.mem_replicate.2 ⟨?_, rfl⟩)) _
      exact Nat.pos_iff_ne_zero.1 (List.count_pos_iff.2 h)
  | happened events hcoming =>
      rw [hcoming]
      exact List.sublist_append_right _ _

theorem heard_after_succ (n : Nat) (before : List Nat) (d : Dated) :
    before ++ heard listener signal (n + 1) d =
      heardBy listener signal before d ++ heard listener signal n d.next :=
  (List.append_assoc _ _ _).symm

theorem ordered_after {n : Nat} (hbound : Bounded listener signal before d)
    (hfair : ∀ k < n, ¬ (d.after k).agenda.Overtakes listener signal)
    (h : Ordered listener signal before d) :
    Ordered listener signal (before ++ heard listener signal n d) (d.after n) := by
  induction n generalizing before d with
  | zero =>
      rw [heard, List.append_nil]
      exact h
  | succ n ih =>
      rw [heard_after_succ]
      exact ih (bounded_next hbound) (fun k hk => hfair (k + 1) (Nat.succ_lt_succ hk))
        (ordered_next hbound (hfair 0 (Nat.succ_pos n)) h)

theorem sublist_after {n : Nat} (h : ∀ k < n, Subscribed listener signal (d.after k))
    (before : List Nat) :
    (before ++ due listener signal d.tasks).Sublist
      (before ++ heard listener signal n d ++ due listener signal (d.after n).tasks) := by
  induction n generalizing before d with
  | zero =>
      rw [heard, List.append_nil]
      exact List.Sublist.refl _
  | succ n ih =>
      rw [heard_after_succ]
      exact (sublist_next (h 0 (Nat.succ_pos n)) before).trans
        (ih (fun k hk => h (k + 1) (Nat.succ_lt_succ hk)) _)

/-- What a subscriber hears stays out of order once it is. -/
theorem fair_of_ordered {n : Nat} (hbound : Bounded listener signal before d)
    (hsubscribed : ∀ k < n, Subscribed listener signal (d.after k))
    (h : Ordered listener signal (before ++ heard listener signal n d) (d.after n)) :
    ∀ k < n, ¬ (d.after k).agenda.Overtakes listener signal := by
  induction n generalizing before d with
  | zero => exact fun k hk => absurd hk (Nat.not_lt_zero k)
  | succ n ih =>
      have hsubscribed' : ∀ k < n, Subscribed listener signal (d.next.after k) :=
        fun k hk => hsubscribed (k + 1) (Nat.succ_lt_succ hk)
      rw [heard_after_succ] at h
      have hnext : Ordered listener signal (heardBy listener signal before d) d.next :=
        h.sublist (sublist_after hsubscribed' _)
      intro k hk
      cases k with
      | zero => exact fun hovertakes => not_ordered_next hbound hovertakes hnext
      | succ k => exact ih (bounded_next hbound) hsubscribed' h k (Nat.lt_of_succ_lt_succ hk)

/-- A listener with one subscription is owed every event of the kind just once. -/
theorem perm_next (hone : (d.workspace.engine.bus.handlers signal).count listener = 1)
    (h : (before ++ due listener signal d.tasks).Perm (positions signal 0 d.happened)) :
    (heardBy listener signal before d ++ due listener signal d.next.tasks).Perm
      (positions signal 0 d.next.happened) := by
  rw [heardBy_due]
  cases advance listener signal d with
  | published number rest hdue hcoming hhappened =>
      rw [hcoming, hone, hhappened]
      rw [hdue] at h
      exact h
  | happened events hcoming hhappened =>
      rw [hcoming, hhappened, positions_append, Nat.zero_add]
      refine (List.Perm.append_left before List.perm_append_comm).trans ?_
      rw [← List.append_assoc]
      exact h.append_right _

theorem perm_after {n : Nat}
    (hone : ∀ k < n, ((d.after k).workspace.engine.bus.handlers signal).count listener = 1)
    (h : (before ++ due listener signal d.tasks).Perm (positions signal 0 d.happened)) :
    (before ++ heard listener signal n d ++ due listener signal (d.after n).tasks).Perm
      (positions signal 0 (d.after n).happened) := by
  induction n generalizing before d with
  | zero =>
      rw [heard, List.append_nil]
      exact h
  | succ n ih =>
      rw [heard_after_succ]
      exact ih (fun k hk => hone (k + 1) (Nat.succ_lt_succ hk))
        (perm_next (hone 0 (Nat.succ_pos n)) h)

/-! ## What happens -/

/-- The events that a step publishes are those of the batch that it applies. -/
theorem happened_next (d : Dated) :
    d.next.happened = d.happened ++
      d.workspace.engine.replica.history (appliedBatches d.agenda.deed?.toList) := by
  cases advance (.observer 0) .memberAdded d with
  | published number rest hdue hcoming hhappened hidle =>
      rw [appliedBatches_of_idle hidle, hhappened]
      exact (List.append_nil _).symm
  | happened events hcoming hhappened happlied => rw [hhappened, happlied]

/-- What happened is the history of the batches that were applied. -/
theorem happened_after {d : Dated} (h : d.agenda.OnQueue) (n : Nat) :
    (d.after n).happened = d.happened ++
      d.workspace.engine.replica.history (appliedBatches (d.agenda.deeds n)) := by
  induction n generalizing d with
  | zero => exact (List.append_nil _).symm
  | succ n ih =>
      have hfirst := Agenda.Ledger.of_effect (Agenda.effect_next h)
      have hnext : d.next.agenda.OnQueue := by
        rw [agenda_next]
        exact Agenda.onQueue_next h
      have hreplica : d.next.workspace.engine.replica =
          (appliedBatches d.agenda.deed?.toList).foldl (fun r batch => (r.applyBatch batch).1)
            d.workspace.engine.replica := by
        have hreplica := hfirst.replica
        rw [← agenda_next] at hreplica
        exact hreplica
      have hdeeds : appliedBatches (d.agenda.deeds (n + 1)) =
          appliedBatches d.agenda.deed?.toList ++ appliedBatches (d.agenda.next.deeds n) :=
        List.filterMap_append
      show (d.next.after n).happened = _
      rw [ih hnext, happened_next, hreplica, agenda_next, hdeeds, Replica.history_append,
        List.append_assoc]

theorem due_start (commands : List Command) (w : Workspace) :
    due listener signal (start commands w).tasks = [] := by
  by_contra h
  obtain ⟨task, hmem, howes⟩ := due_ne_nil.1 h
  rw [show (start commands w).tasks.map Prod.fst = _ from
    congrArg Agenda.tasks (agenda_start commands w)] at hmem
  obtain ⟨c, -, rfl⟩ := List.mem_map.1 hmem
  cases howes

theorem bounded_start (commands : List Command) (w : Workspace) :
    Bounded listener signal [] (start commands w) := by
  unfold Bounded
  rw [due_start]
  exact fun _ h => (List.not_mem_nil h).elim

theorem ordered_start (commands : List Command) (w : Workspace) :
    Ordered listener signal [] (start commands w) := by
  unfold Ordered
  rw [due_start]
  exact .nil

/-- When nothing is left to do, what was heard in order is what happened. -/
theorem heard_eq_of_ordered {commands : List Command} {w : Workspace} {n : Nat}
    (hone : ∀ k < n,
      (((start commands w).after k).workspace.engine.bus.handlers signal).count listener = 1)
    (hdone : ((start commands w).after n).tasks = [])
    (h : Ordered listener signal (heard listener signal n (start commands w))
      ((start commands w).after n)) :
    heard listener signal n (start commands w) =
      positions signal 0 ((start commands w).after n).happened := by
  have hnothing : ([] ++ due listener signal (start commands w).tasks).Perm
      (positions signal 0 (start commands w).happened) := by
    rw [due_start]
    exact .nil
  have hperm := perm_after hone hnothing
  unfold Ordered at h
  rw [hdone, show due listener signal [] = [] from rfl, List.append_nil] at h hperm
  exact hperm.eq_of_pairwise (fun _ _ _ _ h h' => Nat.le_antisymm h h') h
    ((positions_sorted _ _ _).imp Nat.le_of_lt)

theorem ordered_of_heard_eq {d : Dated} (hdone : d.tasks = []) {numbers : List Nat}
    (h : numbers = positions signal 0 d.happened) : Ordered listener signal numbers d := by
  unfold Ordered
  rw [hdone, show due listener signal [] = [] from rfl, List.append_nil, h]
  exact (positions_sorted _ _ _).imp Nat.le_of_lt

/-- A subscriber hears the events of a kind in the order in which they happened, as long as no
batch with such an event was applied while an earlier one was due to it. With one subscription
throughout, it hears all of them in that order just if there was no such batch. There is none if
the engine does not apply at once and those who watch it only enqueue. -/
theorem heard_in_order_iff_fair {w : Workspace} {commands : List Command}
    (hcommands : ∀ c ∈ commands, c.onQueue = true)
    (hobservers : Agenda.ObserversGive (fun c => c.onQueue = true) w)
    (listener : EngineListener) (signal : EngineSignal) (n : Nat) :
    let moment := fun k => (Agenda.start commands w).after k
    let fair := ∀ k < n, ¬ (moment k).Overtakes listener signal
    let d := (start commands w).after n
    let heard := heard listener signal n (start commands w)
    d.agenda = moment n ∧
    d.happened = w.engine.replica.history (appliedBatches ((Agenda.start commands w).deeds n)) ∧
    (fair → heard.Pairwise (· ≤ ·)) ∧
    ((∀ k < n, ((moment k).workspace.engine.bus.handlers signal).count listener = 1) →
      d.tasks = [] → (fair ↔ heard = positions signal 0 d.happened)) ∧
    (w.engine.immediate = false → (∀ c ∈ commands, c.defers = true) →
      Agenda.ObserversGive (fun c => c.onlyQueues = true) w → fair) := by
  intro moment fair d heard
  have hmoment : ∀ k, ((start commands w).after k).agenda = moment k := fun k => by
    rw [agenda_after, agenda_start]
  have hordered : fair → Ordered listener signal heard d := fun hfair =>
    ordered_after (bounded_start commands w) (fun k hk => by rw [hmoment]; exact hfair k hk)
      (ordered_start commands w)
  refine ⟨hmoment n, ?_, fun hfair => (List.pairwise_append.1 (hordered hfair)).1, ?_, ?_⟩
  · have honQueue : (start commands w).agenda.OnQueue := by
      rw [agenda_start]
      exact Agenda.within_start hcommands hobservers
    have hhappened := happened_after honQueue n
    rw [agenda_start] at hhappened
    exact hhappened
  · intro hone hdone
    have hone' : ∀ k < n,
        (((start commands w).after k).workspace.engine.bus.handlers signal).count listener = 1 := by
      intro k hk
      have hk := hone k hk
      rw [← hmoment] at hk
      exact hk
    refine ⟨fun hfair => heard_eq_of_ordered hone' hdone (hordered hfair), fun hheard k hk => ?_⟩
    rw [← hmoment]
    refine fair_of_ordered (bounded_start commands w) (fun k hk => ?_)
      (ordered_of_heard_eq hdone hheard) k hk
    exact List.count_pos_iff.1 (by rw [hone' k hk]; exact Nat.one_pos)
  · intro hdeferred hdefers hqueues k hk
    exact Agenda.not_overtakes_of_patient (Agenda.patient_after (Agenda.patient_start
      (fun c hc => ⟨hcommands c hc, hdefers c hc⟩) hdeferred hobservers hqueues) k) _ _

/-- Two observers of new members, of whom the first one brings in `b` when it hears of `a`. -/
def twoWitnesses (immediate : Bool) : Workspace :=
  let bring : Command := .engine (.enqueue [.addMember ⟨"b"⟩ {}])
  ([.watchEngine .memberAdded "first" [bring] 1, .watchEngine .memberAdded "second" [] 0] :
    List Command).foldl (fun w c => (w.execute c).2) { engine := { phase := .opened, immediate } }

def entrance : List Command := [.engine (.enqueue [.addMember ⟨"a"⟩ {}]), .engine .flush]

theorem twoWitnesses_observers (immediate : Bool) :
    Agenda.ObserversGive (fun c => c.onQueue = true ∧ c.onlyQueues = true)
      (twoWitnesses immediate) := by
  have hall : ∀ e ∈ (twoWitnesses immediate).observers.toList, ∀ c ∈ e.2.actions,
      c.onQueue = true ∧ c.onlyQueues = true := by cases immediate <;> decide +kernel
  exact fun id o ho => hall _ ((Dict.get?_eq_some_iff_mem _ _ _).1 ho)

/-- If the batch of the first one waits, the second one hears of `a` before `b`. -/
theorem heard_in_order_deferred :
    ((start entrance (twoWitnesses false)).after 24).tasks = [] ∧
      heard (.observer 1) .memberAdded 24 (start entrance (twoWitnesses false)) = [0, 1] := by
  have hcommands : ∀ c ∈ entrance, c.onQueue = true ∧ c.defers = true := by decide
  have hobservers := twoWitnesses_observers false
  obtain ⟨-, -, -, hiff, hdefers⟩ := heard_in_order_iff_fair (fun c hc => (hcommands c hc).1)
    (fun id o ho c hc => (hobservers id o ho c hc).1) (.observer 1) .memberAdded 24
  have hfair := hdefers (by decide +kernel) (fun c hc => (hcommands c hc).2)
    fun id o ho c hc => (hobservers id o ho c hc).2
  have hdone : ((start entrance (twoWitnesses false)).after 24).tasks = [] :=
    List.isEmpty_iff.1 (by decide +kernel)
  have hall : positions .memberAdded 0
      ((start entrance (twoWitnesses false)).after 24).happened = [0, 1] := by decide +kernel
  exact ⟨hdone, ((hiff (by decide +kernel) hdone).1 hfair).trans hall⟩

/-- If it is applied at once, the second one hears of `b` before `a`. -/
theorem heard_out_of_order_at_once :
    let d := start entrance (twoWitnesses true)
    (d.after 26).tasks.isEmpty = true ∧
      (d.after 26).happened = [.memberAdded ⟨"a"⟩, .memberAdded ⟨"b"⟩] ∧
      heard (.observer 1) .memberAdded 26 d = [1, 0] := by
  refine ⟨?_, ?_, ?_⟩ <;> decide +kernel

end Dated

end Coedit
