import Coedit.Proofs.Workspace.Dates

/-!
# Subscribers that only enqueue

As long as the engine does not apply batches at once, and those who watch it do no more than
enqueue, only commands from outside apply batches, and these wait until everything that happened
was delivered. So no batch ever overtakes an event that is due.
-/

namespace Coedit

mutual

/-- Commands to an engine that apply no batches, if the engine does not apply at once. -/
def Command.onlyQueues : Command → Bool
  | .engine (.load _) | .engine .takeSubmitted | .engine .flush | .engine .close => false
  | .engine (.setImmediate on) => !on
  | .engine _ => true
  | .watchEngine _ _ actions _ => Command.allOnlyQueue actions
  | _ => false

def Command.allOnlyQueue : List Command → Bool
  | [] => true
  | c :: rest => c.onlyQueues && Command.allOnlyQueue rest

end

/-- Commands that apply batches only by a flush or a close. -/
def Command.defers : Command → Bool
  | .engine .flush | .engine .close => true
  | c => c.onlyQueues

theorem Command.allOnlyQueue_iff {l : List Command} :
    Command.allOnlyQueue l = true ↔ ∀ c ∈ l, c.onlyQueues = true := by
  induction l with
  | nil => simp [Command.allOnlyQueue]
  | cons c rest ih => simp [Command.allOnlyQueue, ih]

theorem Command.defers_of_onlyQueues {c : Command} (h : c.onlyQueues = true) :
    c.defers = true := by
  unfold Command.defers
  split
  · rfl
  · rfl
  · exact h

def Task.mayApply : Task → Bool
  | .drain | .shut => true
  | .perform c => !c.onlyQueues
  | _ => false

namespace Agenda

/-- Nothing that may apply the queue stands before the delivery of an event. -/
structure Patient (a : Agenda) : Prop where
  onQueue : OnQueue a
  deferred : a.workspace.engine.immediate = false
  commands : ∀ c, .perform c ∈ a.tasks → c.defers = true
  observers : ObserversGive (fun c => c.onlyQueues = true) a.workspace
  last : a.tasks.Pairwise fun task later => task.mayApply = true → later.event? = none

theorem patient_start {commands : List Command} {w : Workspace}
    (hcommands : ∀ c ∈ commands, c.onQueue = true ∧ c.defers = true)
    (hdeferred : w.engine.immediate = false)
    (hqueue : ObserversGive (fun c => c.onQueue = true) w)
    (hobservers : ObserversGive (fun c => c.onlyQueues = true) w) : Patient (start commands w) where
  onQueue := within_start (fun c hc => (hcommands c hc).1) hqueue
  deferred := hdeferred
  commands := by
    intro c hc
    obtain ⟨other, hmem, heq⟩ := List.mem_map.1 hc
    cases heq
    exact (hcommands c hmem).2
  observers := hobservers
  last := by
    refine List.pairwise_map.2 (List.pairwise_of_forall fun _ _ _ => rfl)

/-- Nothing is overtaken in a patient agenda. -/
theorem not_overtakes_of_patient {a : Agenda} (h : Patient a) (listener : EngineListener)
    (signal : EngineSignal) : ¬ Overtakes listener signal a := by
  rintro ⟨batch, happlied, -, task, htask, howes⟩
  obtain ⟨first, rest, htasks, happly, -⟩ := Dated.applied_cases happlied
  have hfirst : first.event? = none ∧ first.mayApply = true := by
    obtain rfl | rfl := happly <;> exact ⟨rfl, rfl⟩
  have hsilent : task.event? = none := by
    rw [htasks] at htask
    rcases List.mem_cons.1 htask with rfl | hrest
    · exact hfirst.1
    · have hlast := h.last
      rw [htasks, List.pairwise_cons] at hlast
      exact hlast.1 task hrest hfirst.2
  rw [Task.owes_of_silent hsilent] at howes
  cases howes

/-! ## One step -/

theorem mayApply_of_minor {task : Task} (h : task.isMinor = true)
    (hcommand : ∀ c, task = .perform c → c.onlyQueues = true) : task.mayApply = false := by
  cases task with
  | perform c => simp [Task.mayApply, hcommand c rfl]
  | drain => cases h
  | shut => cases h
  | _ => rfl

theorem parts_perform_of_onlyQueues {c : Command} (hc : c.onlyQueues = true) {w : Workspace}
    (hdeferred : w.engine.immediate = false) (reply : Reply) {part : Task}
    (h : part ∈ (perform reply w c).tasks) : part.mayApply = false := by
  cases c with
  | engine c =>
      cases c with
      | enqueue batch =>
          simp only [perform, enqueue] at h
          split at h
          · cases h
          · rename_i w' htake
            obtain ⟨-, rfl⟩ := engine_take htake
            have hnone : followUp { w with engine := queued w.engine batch } = [] := by
              unfold followUp
              have himmediate : (queued w.engine batch).immediate = false := hdeferred
              exact if_neg (by rw [himmediate]; exact Bool.false_ne_true)
            rw [hnone, List.nil_append] at h
            rw [List.mem_singleton.1 h]
            rfl
      | flush | close => simp [Command.onlyQueues] at hc
      | _ => cases h
  | session c => simp [Command.onlyQueues] at hc
  | _ => cases h

/-- A task that may not apply the queue brings none that may. -/
theorem parts_of_patient {task part : Task} (htask : task.mayApply = false) {w : Workspace}
    (hdeferred : w.engine.immediate = false) (reply : Reply)
    (hcommands : ∀ c, .perform c ∈ (begin reply w task).tasks → c.onlyQueues = true)
    (h : part ∈ (begin reply w task).tasks) : part.mayApply = false := by
  have hminor : part.isMinor = true → part.mayApply = false := fun hminor =>
    mayApply_of_minor hminor fun c hc => hcommands c (hc ▸ h)
  cases task with
  | perform c =>
      have hc : c.onlyQueues = true := by simpa [Task.mayApply] using htask
      exact parts_perform_of_onlyQueues hc hdeferred reply h
  | drain | shut => cases htask
  | publish event =>
      obtain ⟨listener, -, rfl⟩ := List.mem_map.1 h
      rfl
  | hear event listener => exact hminor (minor_hear h)
  | react id reaction => exact hminor (minor_react h)
  | tell event observer => exact hminor (minor_tell h)
  | report editor event => exact hminor (minor_report h)
  | _ => cases h

/-- The parts of any task have the events before those that may apply the queue. -/
theorem last_begin (reply : Reply) (w : Workspace) (task : Task) :
    (begin reply w task).tasks.Pairwise fun part later =>
      part.mayApply = true → later.event? = none := by
  by_cases happly : task = .drain ∨ task = .shut
  · obtain ⟨-, hnone⟩ | ⟨batch, later, -, hparts⟩ := Dated.begin_apply happly reply w
    · rw [hnone]
      exact .nil
    · rw [hparts, List.pairwise_append]
      refine ⟨List.pairwise_map.2 (List.pairwise_of_forall fun _ _ h => (by cases h)),
        List.pairwise_singleton _ _, fun part hpart _ _ h => ?_⟩
      obtain ⟨event, -, rfl⟩ := List.mem_map.1 hpart
      cases h
  · rw [not_or] at happly
    cases hpublish : task.published? with
    | none =>
        refine List.Pairwise.imp_of_mem (R := fun _ _ => True) (fun _ hlater _ _ => ?_)
          (List.pairwise_of_forall fun _ _ => trivial)
        exact event?_begin hpublish happly.1 happly.2 hlater
    | some event =>
        cases task with
        | publish other =>
            exact List.pairwise_map.2 (List.pairwise_of_forall fun _ _ h => by cases h)
        | _ => cases hpublish

theorem deferred_perform {c : Command} (hqueue : c.onQueue = true) (hdefers : c.defers = true)
    {w : Workspace} (h : w.engine.immediate = false) (reply : Reply) :
    (perform reply w c).workspace.engine.immediate = false := by
  cases c with
  | engine c =>
      cases c with
      | enqueue batch =>
          simp only [perform, enqueue]
          split
          · exact h
          · rename_i w' htake
            obtain ⟨-, rfl⟩ := engine_take htake
            exact h
      | flush => exact h
      | close =>
          simp only [perform, close]
          split <;> exact h
      | setImmediate on =>
          simp only [perform, Workspace.execute_eq_step]
          show on = false
          simpa [Command.defers, Command.onlyQueues] using hdefers
      | load url => simp [Command.onQueue] at hqueue
      | takeSubmitted => simp [Command.onQueue] at hqueue
      | _ =>
          simp only [perform, Workspace.execute_eq_step]
          exact h
  | watchEngine signal label actions times =>
      simp only [perform, Workspace.execute_eq_step, Workspace.step, Workspace.watchEngine,
        Engine.subscribe]
      cases w.engine.bus.subscribe signal (.observer w.nextId) <;> exact h
  | _ => simp [Command.onQueue] at hqueue

theorem deferred_begin {task : Task} {w : Workspace} (h : w.engine.immediate = false)
    (reply : Reply) (hperform : ∀ c, task = .perform c → c.onQueue = true ∧ c.defers = true) :
    (begin reply w task).workspace.engine.immediate = false := by
  by_cases hdelivers : task.delivers = true
  · rw [engine_begin hdelivers]
    exact h
  · cases task with
    | perform c => exact deferred_perform (hperform c rfl).1 (hperform c rfl).2 h reply
    | drain =>
        simp only [begin, drain]
        obtain ⟨-, hnone⟩ | ⟨batch, later, -, hsome⟩ := Engine.applyNext?_cases w.engine
        · rw [hnone]
          exact h
        · rw [hsome]
          exact h
    | shut =>
        simp only [begin, shut]
        obtain ⟨-, hnone⟩ | ⟨batch, later, -, hsome⟩ := Engine.applyNext?_cases w.engine
        · rw [hnone]
          simp only [engine_closeNow]
          unfold Engine.finishClose
          split <;> exact h
        · rw [hsome]
          exact h
    | _ => exact absurd rfl hdelivers

theorem within_onlyQueues {a : Agenda} (h : Patient a) {task : Task} {rest : List Task}
    (htasks : a.tasks = task :: rest) :
    Within (fun c => c.onlyQueues = true) (begin a.reply a.workspace task) := by
  refine within_begin h.observers ?_
  rintro c rfl
  have hmem : Task.perform c ∈ a.tasks := by
    rw [htasks]
    exact List.mem_cons_self
  refine within_perform_of_onQueue (h.onQueue.commands c hmem) ?_ h.observers a.reply
  rintro signal label actions times rfl
  have hdefers := h.commands _ hmem
  simp only [Command.defers, Command.onlyQueues] at hdefers
  exact Command.allOnlyQueue_iff.1 hdefers

theorem patient_next {a : Agenda} (h : Patient a) : Patient a.next := by
  cases htasks : a.tasks with
  | nil =>
      have hnext : a.next = a := by
        unfold next
        rw [htasks]
      rw [hnext]
      exact h
  | cons task rest =>
      have hnext : a.next = (begin a.reply a.workspace task).before rest := by
        unfold next
        rw [htasks]
      have hfirst := within_onlyQueues h htasks
      have hlast := h.last
      rw [htasks, List.pairwise_cons] at hlast
      have hperform : ∀ c, task = .perform c → c.onQueue = true ∧ c.defers = true := by
        rintro c rfl
        have hmem : Task.perform c ∈ a.tasks := by
          rw [htasks]
          exact List.mem_cons_self
        exact ⟨h.onQueue.commands c hmem, h.commands c hmem⟩
      have honQueue := onQueue_next h.onQueue
      rw [hnext] at honQueue ⊢
      refine ⟨honQueue, deferred_begin h.deferred a.reply hperform, ?_, hfirst.observers, ?_⟩
      · intro c hc
        rcases List.mem_append.1 hc with hc | hc
        · exact Command.defers_of_onlyQueues (hfirst.commands c hc)
        · exact h.commands c (by rw [htasks]; exact List.mem_cons_of_mem _ hc)
      · refine List.pairwise_append.2 ⟨last_begin _ _ task, hlast.2, ?_⟩
        intro part hpart later hlater happly
        cases htask : task.mayApply with
        | true => exact hlast.1 later hlater htask
        | false =>
            rw [parts_of_patient htask h.deferred a.reply hfirst.commands hpart] at happly
            cases happly

theorem patient_after {a : Agenda} (h : Patient a) (n : Nat) : Patient (a.after n) := by
  induction n generalizing a with
  | zero => exact h
  | succ n ih => exact ih (patient_next h)

end Agenda

end Coedit
