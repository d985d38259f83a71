import Coedit.Proofs.Engine.ChangeLog
import Coedit.Proofs.Workspace.Queue

/-!
# Deliveries with dates

Every event gets a number when its operation is applied, and every delivery bears the number of
its event. What a step changes about the deliveries that are due to a listener is little: it
publishes one event to the subscriptions that there are, or puts the events of a batch before
everything that is due already (`advance`).
-/

namespace Coedit

namespace Task

def event? : Task → Option EngineEvent
  | publish event | hear event _ => some event
  | _ => none

/-- The event that is about to be published. -/
def published? : Task → Option EngineEvent
  | publish event => some event
  | _ => none

def isMinor : Task → Bool
  | publish _ | hear _ _ | drain | shut => false
  | _ => true

/-- Whether a task is yet to hand on an event of the kind to the listener, if that is subscribed
when it comes to it. -/
def owes (listener : EngineListener) (signal : EngineSignal) : Task → Bool
  | publish event => event.signal = signal
  | hear event other => other = listener ∧ event.signal = signal
  | _ => false

theorem event?_of_minor {task : Task} (h : task.isMinor = true) : task.event? = none := by
  cases task <;> first | rfl | cases h

theorem owes_of_silent {task : Task} (h : task.event? = none) (listener : EngineListener)
    (signal : EngineSignal) : task.owes listener signal = false := by
  cases task <;> first | rfl | cases h

theorem published?_of_silent {task : Task} (h : task.event? = none) : task.published? = none := by
  cases task <;> first | rfl | cases h

end Task

def positions (signal : EngineSignal) : Nat → List EngineEvent → List Nat
  | _, [] => []
  | first, event :: rest =>
    (if event.signal = signal then [first] else []) ++ positions signal (first + 1) rest

/-- An agenda with all events that have happened, in the order in which their operations were
applied. Each task bears the number of the event that it is about, if there is one. -/
structure Dated where
  tasks : List (Task × Nat)
  happened : List EngineEvent := []
  reply : Reply := .done
  workspace : Workspace

namespace Dated

def agenda (d : Dated) : Agenda := ⟨d.tasks.map Prod.fst, d.reply, d.workspace⟩

def start (commands : List Command) (w : Workspace) : Dated :=
  { tasks := commands.map fun c => (.perform c, 0), workspace := w }

/-- Numbers events to be published from `first` on. The other parts of a task bear its number. -/
def stamp (number : Nat) : Nat → List Task → List (Task × Nat)
  | _, [] => []
  | first, .publish event :: rest => (.publish event, first) :: stamp number (first + 1) rest
  | first, task :: rest => (task, number) :: stamp number first rest

def next (d : Dated) : Dated :=
  match d.tasks with
  | [] => d
  | (task, number) :: rest =>
    let a := Agenda.begin d.reply d.workspace task
    { tasks := stamp number d.happened.length a.tasks ++ rest
      happened := d.happened ++ a.tasks.filterMap Task.published?
      reply := a.reply
      workspace := a.workspace }

def after : Nat → Dated → Dated
  | 0, d => d
  | n + 1, d => after n d.next

variable (listener : EngineListener) (signal : EngineSignal)

/-- The number of the event of the kind that the listener hears of in the next step. -/
def heard? (d : Dated) : Option Nat :=
  match d.tasks with
  | (.hear event other, number) :: _ =>
    if (Task.hear event other).owes listener signal then some number else none
  | _ => none

def heard : Nat → Dated → List Nat
  | 0, _ => []
  | n + 1, d => (heard? listener signal d).toList ++ heard n d.next

def due (tasks : List (Task × Nat)) : List Nat :=
  (tasks.filter fun entry => entry.1.owes listener signal).map Prod.snd

end Dated

namespace Agenda

/-- The next step applies a batch with an event of the kind, while an earlier one is still due
to the listener. -/
def Overtakes (listener : EngineListener) (signal : EngineSignal) (a : Agenda) : Prop :=
  ∃ batch, a.deed? = some (.applied batch) ∧
    (∃ event ∈ (a.workspace.engine.replica.applyBatch batch).2, event.signal = signal) ∧
    ∃ task ∈ a.tasks, task.owes listener signal = true

/-! ## What tasks consist of -/

section Begin

variable {reply : Reply} {w : Workspace} {part : Task}

theorem minor_sessionHears {event : EngineEvent} {id : Nat}
    (h : part ∈ (sessionHears reply w event id).tasks) : part.isMinor = true := by
  unfold sessionHears at h
  split at h
  · cases h
  · split at h
    · simp only [List.mem_append, List.mem_map, List.mem_singleton] at h
      obtain ⟨reaction, -, rfl⟩ | rfl := h <;> rfl
    · cases h

theorem minor_inform {id : Nat} (h : part ∈ (inform reply w id).tasks) :
    part.isMinor = true := by
  unfold inform modification at h
  split at h
  · rcases List.mem_append.1 h with hreport | hlast
    · split at hreport
      · cases hreport
      · simp only at hreport
        split at hreport
        · obtain ⟨editor, -, rfl⟩ := List.mem_map.1 hreport
          rfl
        · cases hreport
    · rw [List.mem_singleton.1 hlast]
      rfl
  · cases h

theorem minor_hear {event : EngineEvent} {listener : EngineListener}
    (h : part ∈ (hear reply w event listener).tasks) : part.isMinor = true := by
  cases listener with
  | session id => exact minor_sessionHears h
  | undoManager id => exact minor_inform h
  | metadataRelay editor =>
      cases event with
      | metadataChanged set removed =>
          rw [List.mem_singleton.1 h]
          rfl
      | _ => cases h
  | observer id =>
      rw [List.mem_singleton.1 h]
      rfl

theorem minor_react {id : Nat} {reaction : Reaction}
    (h : part ∈ (react reply w id reaction).tasks) : part.isMinor = true := by
  unfold react announcement at h
  split at h
  · cases h
  · simp only at h
    split at h
    · simp only at h
      split at h
      · cases h
      · obtain ⟨observer, -, rfl⟩ := List.mem_map.1 h
        rfl
    · cases h

theorem minor_tell {event : AnyEvent} {id : Nat} (h : part ∈ (tell reply w event id).tasks) :
    part.isMinor = true := by
  unfold tell commands at h
  split at h
  · cases h
  · rcases List.mem_append.1 h with hcommand | hlast
    · obtain ⟨c, -, hc⟩ := List.mem_flatMap.1 hcommand
      simp only [List.mem_cons, List.not_mem_nil, or_false] at hc
      obtain rfl | rfl := hc <;> rfl
    · rw [List.mem_singleton.1 hlast]
      rfl

theorem minor_report {editor : Nat} {event : EditorEvent}
    (h : part ∈ (report reply w editor event).tasks) : part.isMinor = true := by
  unfold report at h
  split at h
  · cases h
  · rcases List.mem_append.1 h with htell | hlast
    · obtain ⟨observer, -, rfl⟩ := List.mem_map.1 htell
      rfl
    · rw [List.mem_singleton.1 hlast]
      rfl

theorem event?_followUp (h : part ∈ followUp w) : part.event? = none := by
  unfold followUp at h
  split at h
  · rw [List.mem_singleton.1 h]
    rfl
  · cases h

theorem event?_edit {e : Edit} (h : part ∈ (edit reply w e).tasks) : part.event? = none := by
  unfold edit at h
  split at h
  · split at h
    · unfold edited at h
      split at h
      · rcases List.mem_append.1 h with hqueued | hlast
        · split at hqueued
          · exact event?_followUp hqueued
          · cases hqueued
        · simp only [List.mem_cons, List.not_mem_nil, or_false] at hlast
          obtain rfl | rfl := hlast <;> rfl
      · cases h
    · cases h
  · split at h <;> cases h
  · cases h

theorem event?_perform {c : Command} (h : part ∈ (perform reply w c).tasks) :
    part.event? = none := by
  cases c with
  | engine c =>
      cases c with
      | enqueue batch =>
          simp only [perform, enqueue] at h
          split at h
          · cases h
          · rcases List.mem_append.1 h with hqueued | hlast
            · exact event?_followUp hqueued
            · rw [List.mem_singleton.1 hlast]
              rfl
      | flush =>
          simp only [perform, List.mem_cons, List.not_mem_nil, or_false] at h
          obtain rfl | rfl := h <;> rfl
      | close =>
          simp only [perform, close] at h
          split at h
          · rw [List.mem_singleton.1 h]
            rfl
          · cases h
      | _ => cases h
  | session c =>
      cases c with
      | edit e => exact event?_edit h
      | _ => cases h
  | _ => cases h

/-- Events are handed on by those who publish them, and published where batches are applied. -/
theorem event?_begin {task : Task} (hpublish : task.published? = none) (hdrain : task ≠ .drain)
    (hshut : task ≠ .shut) (h : part ∈ (begin reply w task).tasks) : part.event? = none := by
  cases task with
  | perform c => exact event?_perform h
  | publish event => cases hpublish
  | drain => exact absurd rfl hdrain
  | shut => exact absurd rfl hshut
  | hear event listener => exact Task.event?_of_minor (minor_hear h)
  | react id reaction => exact Task.event?_of_minor (minor_react h)
  | tell event observer => exact Task.event?_of_minor (minor_tell h)
  | report editor event => exact Task.event?_of_minor (minor_report h)
  | _ => cases h

end Begin

end Agenda

namespace Dated

/-! ## Numbers -/

theorem positions_append (signal : EngineSignal) (first : Nat) (events later : List EngineEvent) :
    positions signal first (events ++ later) =
      positions signal first events ++ positions signal (first + events.length) later := by
  induction events generalizing first with
  | nil => rfl
  | cons event rest ih =>
      rw [List.cons_append, positions, ih, positions, List.append_assoc, List.length_cons,
        Nat.add_right_comm, Nat.add_assoc]

theorem mem_positions {signal : EngineSignal} {first k : Nat} {events : List EngineEvent}
    (h : k ∈ positions signal first events) : first ≤ k ∧ k < first + events.length := by
  induction events generalizing first with
  | nil => cases h
  | cons event rest ih =>
      rw [positions, List.mem_append] at h
      rw [List.length_cons]
      rcases h with hfirst | hrest
      · split at hfirst
        · rw [List.mem_singleton.1 hfirst]
          omega
        · cases hfirst
      · have hbound := ih hrest
        omega

theorem positions_sorted (signal : EngineSignal) (first : Nat) (events : List EngineEvent) :
    (positions signal first events).Pairwise (· < ·) := by
  induction events generalizing first with
  | nil => exact .nil
  | cons event rest ih =>
      rw [positions, List.pairwise_append]
      refine ⟨?_, ih _, fun k hk later hlater => ?_⟩
      · split
        · exact List.pairwise_singleton _ _
        · exact .nil
      · have hbound := mem_positions hlater
        split at hk
        · rw [List.mem_singleton.1 hk]
          omega
        · cases hk

theorem positions_ne_nil {signal : EngineSignal} {first : Nat} {events : List EngineEvent} :
    positions signal first events ≠ [] ↔ ∃ event ∈ events, event.signal = signal := by
  induction events generalizing first with
  | nil => simp [positions]
  | cons event rest ih =>
      rw [positions, ne_eq, List.append_eq_nil_iff, not_and_or, ← ne_eq (positions _ _ _), ih]
      by_cases hevent : event.signal = signal <;> simp [hevent]

/-! ## Tasks with numbers -/

theorem map_fst_stamp (number first : Nat) (tasks : List Task) :
    (stamp number first tasks).map Prod.fst = tasks := by
  induction tasks generalizing first with
  | nil => rfl
  | cons task rest ih => cases task <;> exact congrArg (_ :: ·) (ih _)

theorem agenda_next (d : Dated) : d.next.agenda = d.agenda.next := by
  unfold next agenda Agenda.next
  cases ht : d.tasks with
  | nil => simp only [ht, List.map_nil]
  | cons entry rest =>
      obtain ⟨task, number⟩ := entry
      simp only [List.map_append, map_fst_stamp, List.map_cons]
      rfl

theorem agenda_after (n : Nat) (d : Dated) : (d.after n).agenda = d.agenda.after n := by
  induction n generalizing d with
  | zero => rfl
  | succ n ih => exact (ih d.next).trans (congrArg (Agenda.after n) (agenda_next d))

theorem agenda_start (commands : List Command) (w : Workspace) :
    (start commands w).agenda = Agenda.start commands w := by
  unfold start agenda Agenda.start
  rw [List.map_map]
  rfl

variable {listener : EngineListener} {signal : EngineSignal}

theorem due_append (first second : List (Task × Nat)) :
    due listener signal (first ++ second) =
      due listener signal first ++ due listener signal second := by
  unfold due
  rw [List.filter_append, List.map_append]

theorem due_cons (task : Task) (number : Nat) (rest : List (Task × Nat)) :
    due listener signal ((task, number) :: rest) =
      (if task.owes listener signal then [number] else []) ++ due listener signal rest := by
  unfold due
  rw [List.filter_cons]
  split <;> rfl

theorem due_ne_nil {tasks : List (Task × Nat)} :
    due listener signal tasks ≠ [] ↔
      ∃ task ∈ tasks.map Prod.fst, task.owes listener signal = true := by
  simp [due, List.filter_eq_nil_iff]

variable (listener signal) in
theorem stamp_of_silent {tasks : List Task} (h : ∀ part ∈ tasks, part.event? = none)
    (number first : Nat) :
    due listener signal (stamp number first tasks) = [] ∧
      tasks.filterMap Task.published? = [] := by
  induction tasks generalizing first with
  | nil => exact ⟨rfl, rfl⟩
  | cons part rest ih =>
      have hpart := h part List.mem_cons_self
      obtain ⟨hdue, hpublished⟩ :=
        ih (fun other hmem => h other (List.mem_cons_of_mem _ hmem)) first
      have hstamp :
          stamp number first (part :: rest) = (part, number) :: stamp number first rest := by
        cases part <;> first | rfl | cases hpart
      rw [hstamp, due_cons, Task.owes_of_silent hpart, hdue, List.filterMap_cons,
        Task.published?_of_silent hpart, hpublished]
      exact ⟨rfl, rfl⟩

variable (listener signal) in
/-- Publishing an event lets the listener hear of it once for each of its subscriptions. -/
theorem due_hears (event : EngineEvent) (handlers : List EngineListener) (number first : Nat) :
    due listener signal (stamp number first (handlers.map (.hear event))) =
      if event.signal = signal then List.replicate (handlers.count listener) number else [] := by
  induction handlers with
  | nil => simp [stamp, due]
  | cons other rest ih =>
      rw [List.map_cons, stamp, due_cons, ih]
      · unfold Task.owes
        rw [List.count_cons]
        by_cases hother : other = listener <;> by_cases hevent : event.signal = signal <;>
          simp [hother, hevent, List.replicate_succ]
      · intro _ h
        cases h

theorem published_hears (event : EngineEvent) (handlers : List EngineListener) :
    (handlers.map (.hear event)).filterMap Task.published? = [] := by
  rw [List.filterMap_eq_nil_iff]
  intro part hpart
  obtain ⟨other, -, rfl⟩ := List.mem_map.1 hpart
  rfl

variable (listener signal) in
theorem due_publishes (events : List EngineEvent) {last : Task} (hlast : last.event? = none)
    (number first : Nat) :
    due listener signal (stamp number first (events.map .publish ++ [last])) =
        positions signal first events ∧
      (events.map Task.publish ++ [last]).filterMap Task.published? = events := by
  induction events generalizing first with
  | nil =>
      have hsilent : ∀ part ∈ [last], part.event? = none := by simpa using hlast
      exact stamp_of_silent listener signal hsilent _ _
  | cons event rest ih =>
      obtain ⟨hdue, hpublished⟩ := ih (first + 1)
      constructor
      · rw [List.map_cons, List.cons_append, stamp, due_cons, hdue, positions]
        simp only [Task.owes, decide_eq_true_eq]
      · rw [List.map_cons, List.cons_append, List.filterMap_cons, hpublished]
        rfl

/-! ## One step -/

/-- What is heard in the next step, and what is due after it. -/
def coming (listener : EngineListener) (signal : EngineSignal) (d : Dated) : List Nat :=
  (heard? listener signal d).toList ++ due listener signal d.next.tasks

inductive Advance (listener : EngineListener) (signal : EngineSignal) (d : Dated) : Prop where
  /-- An event of the kind is published to the subscriptions that there are. -/
  | published (number : Nat) (rest : List Nat)
      (due : due listener signal d.tasks = number :: rest)
      (coming : coming listener signal d =
        List.replicate ((d.workspace.engine.bus.handlers signal).count listener) number ++ rest)
      (happened : d.next.happened = d.happened)
      (idle : ∀ batch, d.agenda.deed? ≠ some (.applied batch))
  /-- Events happen, or none. -/
  | happened (events : List EngineEvent)
      (coming : coming listener signal d =
        positions signal d.happened.length events ++ due listener signal d.tasks)
      (happened : d.next.happened = d.happened ++ events)
      (applied : events =
        d.workspace.engine.replica.history (appliedBatches d.agenda.deed?.toList))
      (overtakes : d.agenda.Overtakes listener signal ↔
        positions signal d.happened.length events ≠ [] ∧ due listener signal d.tasks ≠ [])

theorem next_of_tasks {d : Dated} {task : Task} {number : Nat} {rest : List (Task × Nat)}
    (ht : d.tasks = (task, number) :: rest) :
    d.next.tasks = stamp number d.happened.length
        (Agenda.begin d.reply d.workspace task).tasks ++ rest ∧
      d.next.happened = d.happened ++
        (Agenda.begin d.reply d.workspace task).tasks.filterMap Task.published? := by
  unfold next
  rw [ht]
  exact ⟨rfl, rfl⟩

theorem heard?_of_tasks {d : Dated} {task : Task} {number : Nat} {rest : List (Task × Nat)}
    (ht : d.tasks = (task, number) :: rest) (hpublish : task.published? = none) :
    (heard? listener signal d).toList = if task.owes listener signal then [number] else [] := by
  unfold heard?
  rw [ht]
  cases task with
  | publish event => cases hpublish
  | hear event other =>
      simp only
      split <;> rfl
  | _ => rfl

theorem appliedBatches_of_idle {a : Agenda} (h : ∀ batch, a.deed? ≠ some (.applied batch)) :
    appliedBatches a.deed?.toList = [] := by
  rcases hdeed : a.deed? with _ | ⟨batch⟩ | ⟨batch, cause⟩ | batch
  · rfl
  · rfl
  · rfl
  · exact absurd hdeed (h batch)

/-- A step that hands on no event to anybody but the listener changes nothing about what comes. -/
theorem advance_of_silent {d : Dated} {task : Task} {number : Nat} {rest : List (Task × Nat)}
    (ht : d.tasks = (task, number) :: rest) (hpublish : task.published? = none)
    (hparts : ∀ part ∈ (Agenda.begin d.reply d.workspace task).tasks, part.event? = none)
    (hdeed : ∀ batch, d.agenda.deed? ≠ some (.applied batch)) : Advance listener signal d := by
  obtain ⟨htasks, hhappened⟩ := next_of_tasks ht
  obtain ⟨hdue, hpublished⟩ :=
    stamp_of_silent listener signal hparts number d.happened.length
  refine .happened [] ?_ (by rw [hhappened, hpublished])
    (by rw [appliedBatches_of_idle hdeed]; rfl) ?_
  · unfold coming
    rw [heard?_of_tasks ht hpublish, htasks, due_append, hdue, ht, due_cons]
    rfl
  · refine ⟨?_, fun h => absurd rfl h.1⟩
    rintro ⟨batch, happlied, -⟩
    exact absurd happlied (hdeed batch)

/-- Only those who apply the queue apply batches. -/
theorem applied_cases {a : Agenda} {batch : Batch} (h : a.deed? = some (.applied batch)) :
    ∃ task rest, a.tasks = task :: rest ∧ (task = .drain ∨ task = .shut) ∧
      a.workspace.engine.pending.head? = some batch := by
  unfold Agenda.deed? at h
  split at h
  · split at h <;> cases h
  · rename_i rest htasks
    obtain ⟨other, hhead, heq⟩ := Option.map_eq_some_iff.1 h
    cases heq
    exact ⟨_, rest, htasks, .inl rfl, hhead⟩
  · rename_i rest htasks
    obtain ⟨other, hhead, heq⟩ := Option.map_eq_some_iff.1 h
    cases heq
    exact ⟨_, rest, htasks, .inr rfl, hhead⟩
  · cases h

/-- Applying the queue applies its first batch, if there is one. -/
theorem begin_apply {task : Task} (h : task = .drain ∨ task = .shut) (reply : Reply)
    (w : Workspace) :
    (w.engine.pending = [] ∧ (Agenda.begin reply w task).tasks = []) ∨
      ∃ batch later, w.engine.pending = batch :: later ∧
        (Agenda.begin reply w task).tasks =
          (w.engine.replica.applyBatch batch).2.map .publish ++ [task] := by
  obtain ⟨hempty, hnone⟩ | ⟨batch, later, hpending, hsome⟩ := Engine.applyNext?_cases w.engine
  · refine .inl ⟨hempty, ?_⟩
    obtain rfl | rfl := h
    · simp only [Agenda.begin, Agenda.drain, hnone]
    · simp only [Agenda.begin, Agenda.shut, hnone]
  · refine .inr ⟨batch, later, hpending, ?_⟩
    obtain rfl | rfl := h
    · simp only [Agenda.begin, Agenda.drain, hsome]
    · simp only [Agenda.begin, Agenda.shut, hsome]

theorem advance_of_apply {d : Dated} {task : Task} {number : Nat} {rest : List (Task × Nat)}
    (ht : d.tasks = (task, number) :: rest) (happly : task = .drain ∨ task = .shut) :
    Advance listener signal d := by
  have hsilent : task.event? = none := by obtain rfl | rfl := happly <;> rfl
  have hpublish := Task.published?_of_silent hsilent
  have hdeed : d.agenda.deed? = d.workspace.engine.pending.head?.map .applied := by
    unfold agenda Agenda.deed?
    rw [ht]
    obtain rfl | rfl := happly <;> rfl
  obtain ⟨hempty, hparts⟩ | ⟨batch, later, hpending, hparts⟩ :=
    begin_apply happly d.reply d.workspace
  · refine advance_of_silent ht hpublish (fun part hpart => ?_) fun batch h => ?_
    · rw [hparts] at hpart
      cases hpart
    · rw [hdeed, hempty] at h
      cases h
  · obtain ⟨htasks, hhappened⟩ := next_of_tasks ht
    let events := (d.workspace.engine.replica.applyBatch batch).2
    obtain ⟨hdue, hpublished⟩ := due_publishes listener signal events
      hsilent number d.happened.length
    rw [hparts] at htasks hhappened
    have hevents : events =
        d.workspace.engine.replica.history (appliedBatches d.agenda.deed?.toList) := by
      rw [hdeed, hpending]
      exact (List.append_nil _).symm
    refine .happened events ?_ (by rw [hhappened, hpublished]) hevents ?_
    · unfold coming
      rw [heard?_of_tasks ht hpublish, htasks, due_append, hdue, ht, due_cons,
        Task.owes_of_silent hsilent]
      rfl
    · rw [positions_ne_nil, due_ne_nil]
      unfold Agenda.Overtakes
      rw [hdeed, hpending]
      constructor
      · rintro ⟨other, hother, hevents, howed⟩
        cases hother
        exact ⟨hevents, howed⟩
      · rintro ⟨hevents, howed⟩
        exact ⟨batch, rfl, hevents, howed⟩

theorem advance_of_publish {d : Dated} {event : EngineEvent} {number : Nat}
    {rest : List (Task × Nat)} (ht : d.tasks = (.publish event, number) :: rest)
    (hdeed : ∀ batch, d.agenda.deed? ≠ some (.applied batch)) : Advance listener signal d := by
  let handlers := d.workspace.engine.bus.handlers event.signal
  obtain ⟨htasks, hhappened⟩ := next_of_tasks ht
  have hhears := due_hears listener signal event handlers number
    d.happened.length
  rw [show (Agenda.begin d.reply d.workspace (.publish event)).tasks = handlers.map (.hear event)
    from rfl] at htasks hhappened
  rw [published_hears] at hhappened
  have hunheard : heard? listener signal d = none := by
    unfold heard?
    rw [ht]
  by_cases hevent : event.signal = signal
  · refine .published number (due listener signal rest) ?_ ?_
      (hhappened.trans (List.append_nil _)) hdeed
    · rw [ht, due_cons, Task.owes, if_pos (decide_eq_true hevent)]
      rfl
    · unfold coming
      rw [hunheard, htasks, due_append, hhears, if_pos hevent, ← hevent]
      rfl
  · refine .happened [] ?_ hhappened (by rw [appliedBatches_of_idle hdeed]; rfl)
      ⟨fun ⟨batch, happlied, _⟩ => absurd happlied (hdeed batch), fun h => absurd rfl h.1⟩
    unfold coming
    rw [hunheard, htasks, due_append, hhears, if_neg hevent, ht, due_cons, Task.owes,
      if_neg (by simp [hevent])]
    rfl

variable (listener signal) in
theorem advance (d : Dated) : Advance listener signal d := by
  have hidle : ∀ {task : Task} {number : Nat} {rest : List (Task × Nat)},
      d.tasks = (task, number) :: rest → ¬ (task = .drain ∨ task = .shut) →
      ∀ batch, d.agenda.deed? ≠ some (.applied batch) := by
    intro task number rest ht hother batch h
    obtain ⟨first, others, hfirst, happly, -⟩ := applied_cases h
    unfold agenda at hfirst
    rw [ht] at hfirst
    cases hfirst
    exact hother happly
  cases ht : d.tasks with
  | nil =>
      have hnext : d.next = d := by
        unfold next
        rw [ht]
      have hidle : d.agenda.deed? = none := by
        unfold agenda
        rw [ht]
        rfl
      refine .happened [] ?_ (by rw [hnext, List.append_nil]) (by rw [hidle]; rfl)
        ⟨?_, fun h => absurd rfl h.1⟩
      · unfold coming heard?
        rw [hnext, ht]
        rfl
      · rintro ⟨batch, -, -, task, htask, -⟩
        unfold agenda at htask
        rw [ht] at htask
        cases htask
  | cons entry rest =>
      obtain ⟨task, number⟩ := entry
      by_cases happly : task = .drain ∨ task = .shut
      · exact advance_of_apply ht happly
      · have hdeed := hidle ht happly
        rw [not_or] at happly
        cases hpublish : task.published? with
        | none =>
            exact advance_of_silent ht hpublish
              (fun part hpart => Agenda.event?_begin hpublish happly.1 happly.2 hpart) hdeed
        | some event =>
            cases task with
            | publish other => exact advance_of_publish ht hdeed
            | _ => cases hpublish

end Dated

end Coedit
