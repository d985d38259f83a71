import Coedit.Proofs.Workspace.Agenda

/-!
# What deliveries leave alone

Delivering events changes neither the engine nor, apart from the count of what they will still
answer, the observers. New commands come from the observers that are told, and from nowhere
else, so a run never leaves a class of commands that it starts in.
-/

namespace Coedit.Agenda

/-! ## The engine -/

@[simp] theorem engine_sessionHears (reply : Reply) (w : Workspace) (event : EngineEvent)
    (id : Nat) : (sessionHears reply w event id).workspace.engine = w.engine := by
  unfold sessionHears
  cases w.sessions.get? id with
  | none => rfl
  | some s =>
      simp only
      split <;> rfl

@[simp] theorem engine_inform (reply : Reply) (w : Workspace) (id : Nat) :
    (inform reply w id).workspace.engine = w.engine := by
  unfold inform modification
  split
  · simp only
    cases w.undoManagers.get? id <;> rfl
  · rfl

theorem engine_hear (reply : Reply) (w : Workspace) (event : EngineEvent)
    (listener : EngineListener) : (hear reply w event listener).workspace.engine = w.engine := by
  cases listener with
  | session id => exact engine_sessionHears reply w event id
  | undoManager id => exact engine_inform reply w id
  | metadataRelay editor => cases event <;> rfl
  | observer id => rfl

theorem engine_react (reply : Reply) (w : Workspace) (id : Nat) (reaction : Reaction) :
    (react reply w id reaction).workspace.engine = w.engine := by
  unfold react
  cases w.sessions.get? id with
  | none => rfl
  | some s =>
      simp only
      cases (s.core.react w.engine.replica reaction).2 <;> rfl

theorem engine_tell (reply : Reply) (w : Workspace) (event : AnyEvent) (id : Nat) :
    (tell reply w event id).workspace.engine = w.engine := by
  unfold tell
  cases w.observers.get? id <;> rfl

theorem engine_report (reply : Reply) (w : Workspace) (editor : Nat) (event : EditorEvent) :
    (report reply w editor event).workspace.engine = w.engine := by
  unfold report
  cases w.editor? editor <;> rfl

/-- Delivering events does not change the engine. -/
theorem engine_begin {task : Task} (h : task.delivers = true) (reply : Reply) (w : Workspace) :
    (begin reply w task).workspace.engine = w.engine := by
  cases task with
  | perform | drain | shut => exact Bool.noConfusion h
  | hear event listener => exact engine_hear reply w event listener
  | react id reaction => exact engine_react reply w id reaction
  | tell event observer => exact engine_tell reply w event observer
  | report editor event => exact engine_report reply w editor event
  | _ => rfl

/-! ## Where commands come from -/

def ObserversGive (allowed : Command → Prop) (w : Workspace) : Prop :=
  ∀ id o, w.observers.get? id = some o → ∀ c ∈ o.actions, allowed c

/-- Only commands that are allowed are still to be carried out, now or later. -/
structure Within (allowed : Command → Prop) (a : Agenda) : Prop where
  commands : ∀ c, .perform c ∈ a.tasks → allowed c
  observers : ObserversGive allowed a.workspace

theorem within_start {allowed : Command → Prop} {commands : List Command} {w : Workspace}
    (hcommands : ∀ c ∈ commands, allowed c) (hobservers : ObserversGive allowed w) :
    Within allowed (start commands w) where
  commands := by
    intro c hc
    obtain ⟨c', hmem, heq⟩ := List.mem_map.1 hc
    cases heq
    exact hcommands c hmem
  observers := hobservers

theorem mem_commands {label : String} {actions : List Command} {c : Command}
    (h : .perform c ∈ commands label actions) : c ∈ actions := by
  simp only [commands, List.mem_flatMap, List.mem_cons, Task.perform.injEq, reduceCtorEq,
    List.not_mem_nil, or_false] at h
  obtain ⟨c', hmem, rfl⟩ := h
  exact hmem

section Begin

variable {allowed : Command → Prop} {reply : Reply} {w : Workspace}

theorem within_of_observers (h : ObserversGive allowed w) {a : Agenda}
    (htasks : ∀ c, ¬ .perform c ∈ a.tasks)
    (hobservers : a.workspace.observers = w.observers) : Within allowed a where
  commands := fun c hc => (htasks c hc).elim
  observers := by
    unfold ObserversGive
    rw [hobservers]
    exact h

theorem not_mem_map_perform {β : Type} {task : β → Task} (h : ∀ b c, task b ≠ .perform c)
    {l : List β} (c : Command) : ¬ .perform c ∈ l.map task := by
  intro hmem
  obtain ⟨b, -, hb⟩ := List.mem_map.1 hmem
  exact h b c hb

theorem not_mem_concat_perform {β : Type} {task : β → Task} {last : Task}
    (h : ∀ b c, task b ≠ .perform c) (hlast : ∀ c, last ≠ .perform c) {l : List β}
    (c : Command) : ¬ .perform c ∈ l.map task ++ [last] := by
  intro hmem
  rcases List.mem_append.1 hmem with hmem | hmem
  · exact not_mem_map_perform h c hmem
  · exact hlast c (List.mem_singleton.1 hmem).symm

theorem within_drain (h : ObserversGive allowed w) : Within allowed (drain reply w) := by
  unfold drain
  cases w.engine.applyNext? with
  | none => exact within_of_observers h (fun c => List.not_mem_nil) rfl
  | some next =>
      exact within_of_observers h
        (not_mem_concat_perform (fun _ _ h => by cases h) fun _ h => by cases h) rfl

theorem observers_closeNow (w : Workspace) :
    (Workspace.reply .engine w.closeNow).2.observers = w.observers := by
  unfold Workspace.closeNow Engine.finishClose
  cases w.engine.closeFailure <;> rfl

theorem within_shut (h : ObserversGive allowed w) : Within allowed (shut reply w) := by
  unfold shut
  cases w.engine.applyNext? with
  | none => exact within_of_observers h (fun c => List.not_mem_nil) (observers_closeNow w)
  | some next =>
      exact within_of_observers h
        (not_mem_concat_perform (fun _ _ h => by cases h) fun _ h => by cases h) rfl

theorem within_sessionHears (h : ObserversGive allowed w) (event : EngineEvent) (id : Nat) :
    Within allowed (sessionHears reply w event id) := by
  unfold sessionHears
  cases w.sessions.get? id with
  | none => exact within_of_observers h (fun c => List.not_mem_nil) rfl
  | some s =>
      simp only
      split
      · exact within_of_observers h
          (not_mem_concat_perform (fun _ _ h => by cases h) fun _ h => by cases h) rfl
      · exact within_of_observers h (fun c => List.not_mem_nil) rfl

theorem within_inform (h : ObserversGive allowed w) (id : Nat) :
    Within allowed (inform reply w id) := by
  unfold inform modification
  split
  · simp only
    cases w.undoManagers.get? id with
    | none => exact within_of_observers h (fun c hc => by simp at hc) rfl
    | some m =>
        simp only
        split
        · exact within_of_observers h
            (not_mem_concat_perform (fun _ _ h => by cases h) fun _ h => by cases h) rfl
        · exact within_of_observers h (fun c hc => by simp at hc) rfl
  · exact within_of_observers h (fun c => List.not_mem_nil) rfl

theorem within_hear (h : ObserversGive allowed w) (event : EngineEvent)
    (listener : EngineListener) : Within allowed (hear reply w event listener) := by
  cases listener with
  | session id => exact within_sessionHears h event id
  | undoManager id => exact within_inform h id
  | metadataRelay editor =>
      cases event with
      | metadataChanged set removed =>
          exact within_of_observers h (fun c hc => by simp [hear] at hc) rfl
      | _ => exact within_of_observers h (fun c => List.not_mem_nil) rfl
  | observer id => exact within_of_observers h (fun c hc => by simp [hear] at hc) rfl

theorem within_react (h : ObserversGive allowed w) (id : Nat) (reaction : Reaction) :
    Within allowed (react reply w id reaction) := by
  unfold react announcement
  cases w.sessions.get? id with
  | none => exact within_of_observers h (fun c => List.not_mem_nil) rfl
  | some s =>
      simp only
      cases (s.core.react w.engine.replica reaction).2 with
      | none => exact within_of_observers h (fun c => List.not_mem_nil) rfl
      | some event =>
          refine within_of_observers h (fun c hc => ?_) rfl
          simp only at hc
          split at hc
          · exact List.not_mem_nil hc
          · exact not_mem_map_perform (fun _ _ h => by cases h) c hc

theorem within_tell (h : ObserversGive allowed w) (event : AnyEvent) (id : Nat) :
    Within allowed (tell reply w event id) := by
  unfold tell
  cases ho : w.observers.get? id with
  | none => exact within_of_observers h (fun c => List.not_mem_nil) rfl
  | some o =>
      constructor
      · intro c hc
        rcases List.mem_append.1 hc with hc | hc
        · exact h id o ho c (Observer.mem_answer (mem_commands hc))
        · simp at hc
      · refine Dict.forall_insert (fun c hc => ?_) h
        rw [Observer.answer_actions] at hc
        exact h id o ho c hc

theorem within_report (h : ObserversGive allowed w) (editor : Nat) (event : EditorEvent) :
    Within allowed (report reply w editor event) := by
  unfold report
  cases w.editor? editor with
  | none => exact within_of_observers h (fun c => List.not_mem_nil) rfl
  | some e =>
      exact within_of_observers h
        (not_mem_concat_perform (fun _ _ h => by cases h) fun _ h => by cases h) rfl

/-- A step brings no commands but those of the observers that are told. -/
theorem within_begin (h : ObserversGive allowed w) {task : Task}
    (hperform : ∀ c, task = .perform c → Within allowed (perform reply w c)) :
    Within allowed (begin reply w task) := by
  cases task with
  | perform command => exact hperform command rfl
  | drain => exact within_drain h
  | shut => exact within_shut h
  | publish event =>
      exact within_of_observers h (not_mem_map_perform (fun _ _ h => by cases h)) rfl
  | hear event listener => exact within_hear h event listener
  | react id reaction => exact within_react h id reaction
  | tell event observer => exact within_tell h event observer
  | report editor event => exact within_report h editor event
  | _ => exact within_of_observers h (fun c => List.not_mem_nil) rfl

end Begin

/-- Allowed commands stay allowed, if carrying one out brings no others. -/
theorem within_next {allowed : Command → Prop} {a : Agenda} (h : Within allowed a)
    (hperform : ∀ c reply w, allowed c → ObserversGive allowed w →
      Within allowed (perform reply w c)) : Within allowed a.next := by
  unfold next
  cases ht : a.tasks with
  | nil => exact h
  | cons task rest =>
      have hfirst : Within allowed (begin a.reply a.workspace task) :=
        within_begin h.observers fun c hc =>
          hperform c a.reply a.workspace (h.commands c (by simp [ht, hc])) h.observers
      constructor
      · intro c hc
        rcases List.mem_append.1 hc with hc | hc
        · exact hfirst.commands c hc
        · exact h.commands c (by simp [ht, hc])
      · exact hfirst.observers

end Coedit.Agenda
