import Coedit.Proofs.Workspace.Nesting

/-!
# Work in progress

An agenda is a workspace in the midst of its work: the tasks that are left, in order, and the
reply to the command that ended last. A step takes the first task and puts in its place what
the task consists of; the steps are as small as one batch applied, or one observer told. No
step changes what the agenda comes to (`finish_next`), so the agendas of a run are the moments
of carrying out its commands, those inside the deliveries of a flush included.
-/

namespace Coedit

inductive Task where
  | perform (command : Command)
  /-- Note an observer's command as done, with the reply. -/
  | note (label : String)
  | answer (reply : Reply)
  /-- Apply the queue. -/
  | drain
  /-- Apply the queue, then close the engine. -/
  | shut
  | publish (event : EngineEvent)
  | hear (event : EngineEvent) (listener : EngineListener)
  | react (session : Nat) (reaction : Reaction)
  /-- A session's reaction ends. -/
  | settle (session : Nat)
  | tell (event : AnyEvent) (observer : Nat)
  | report (editor : Nat) (event : EditorEvent)
  | reporting (editors : List Nat)
  | informed (managers : List Nat)
  | holding (holds : List (Place × Access))

namespace Workspace

def closeNow (w : Workspace) : Except EngineError Unit × Workspace :=
  (w.engine.finishClose.1, { w with engine := w.engine.finishClose.2 })

def beginReaction (id : Nat) (w : Workspace) : Workspace :=
  w.modifySession id fun s => { s with reacting := s.reacting + 1 }

def endReaction (id : Nat) (w : Workspace) : Workspace :=
  w.modifySession id fun s => { s with reacting := s.reacting - 1 }

end Workspace

namespace Task

/-- What a task comes to when it is done to its end. -/
def outcome (reply : Reply) (w : Workspace) : Task → Reply × Workspace
  | perform command => w.execute command
  | note label => (reply, w.record (.observer (.did label reply)))
  | answer reply => (reply, w)
  | drain => (reply, w.flush Workspace.conduct)
  | shut => Workspace.reply .engine (w.flush Workspace.conduct).closeNow
  | publish event => (reply, w.publish Workspace.conduct event)
  | hear event listener => (reply, w.hear Workspace.conduct event listener)
  | react id reaction => (reply, w.reactOnce Workspace.conduct id reaction)
  | settle id => (reply, w.endReaction id)
  | tell event observer => (reply, w.notify Workspace.conduct event observer)
  | report editor event => (reply, w.report Workspace.conduct editor event)
  | reporting editors => (reply, { w with reporting := editors })
  | informed managers => (reply, { w with informed := managers })
  | holding holds => (reply, { w with holds })

def outcomes : List Task → Reply × Workspace → Reply × Workspace
  | [], s => s
  | task :: rest, s => outcomes rest (task.outcome s.1 s.2)

def delivers : Task → Bool
  | perform _ | drain | shut => false
  | _ => true

end Task

/-- What is left to do, the reply to the last command, and the workspace. -/
structure Agenda where
  tasks : List Task
  reply : Reply := .done
  workspace : Workspace

namespace Agenda

/-! ## One step -/

def followUp (w : Workspace) : List Task := if w.engine.immediate then [.drain] else []

def enqueue (reply : Reply) (w : Workspace) (batch : Batch) : Agenda :=
  match w.take batch with
  | .error cause => ⟨[], .failed (.engine cause), w⟩
  | .ok w => ⟨followUp w ++ [.answer .done], reply, w⟩

def close (reply : Reply) (w : Workspace) : Agenda :=
  if w.engine.isOpen then ⟨[.shut], reply, w⟩
  else ⟨[], .failed (.engine .notLoaded), w⟩

/-- What is left of an edit when its batch was queued: what follows from that, the answer, and
letting go of what it holds. -/
def edited (reply : Reply) (holds : List (Place × Access)) :
    Except SessionError (EditAnswer × Bool) × Workspace → Agenda
  | (.ok (answer, queued), w) =>
    ⟨(if queued then followUp w else []) ++ [.answer (.edited answer), .holding holds], reply, w⟩
  | (.error cause, w) => ⟨[], .failed (.session cause), { w with holds }⟩

def edit (reply : Reply) (w : Workspace) (e : Edit) : Agenda :=
  match w.meantSession with
  | some (place, some id) =>
    if w.isFree place .shared then
      edited reply w.holds ({ w with holds := (place, .shared) :: w.holds }.queueEdit id e)
    else ⟨[], .busy, w⟩
  | some (place, none) =>
    if w.isFree place .shared then ⟨[], .failed (.editor .noSession), w⟩ else ⟨[], .busy, w⟩
  | none => ⟨[], .absent, w⟩

/-- Begins a command. Those that apply batches are taken apart, the others done at once. -/
def perform (reply : Reply) (w : Workspace) : Command → Agenda
  | .engine (.enqueue batch) => enqueue reply w batch
  | .engine .flush => ⟨[.drain, .answer .done], reply, w⟩
  | .engine .close => close reply w
  | .session (.edit e) => edit reply w e
  | command => ⟨[], (w.execute command).1, (w.execute command).2⟩

def drain (reply : Reply) (w : Workspace) : Agenda :=
  match w.engine.applyNext? with
  | none => ⟨[], reply, w⟩
  | some (events, engine) => ⟨events.map .publish ++ [.drain], reply, { w with engine }⟩

def shut (reply : Reply) (w : Workspace) : Agenda :=
  match w.engine.applyNext? with
  | none => ⟨[], (Workspace.reply .engine w.closeNow).1, (Workspace.reply .engine w.closeNow).2⟩
  | some (events, engine) => ⟨events.map .publish ++ [.shut], reply, { w with engine }⟩

def sessionHears (reply : Reply) (w : Workspace) (event : EngineEvent) (id : Nat) : Agenda :=
  match w.sessions.get? id with
  | none => ⟨[], reply, w⟩
  | some s =>
    if s.attached || 0 < s.reacting then
      ⟨(s.core.reactions w.engine.replica event).map (.react id) ++ [.settle id], reply,
        w.beginReaction id⟩
    else ⟨[], reply, w⟩

def modification (w : Workspace) (id : Nat) : List Task × Workspace :=
  match w.undoManagers.get? id with
  | none => ([], w)
  | some m =>
    (if (m.setModified true).2 then
      ((m.setModified true).1.bus.handlers .modifiedChanged).map fun editor =>
        .report editor (.documentModifiedChanged true)
    else [],
    { w with undoManagers := w.undoManagers.insert id (m.setModified true).1 })

def inform (reply : Reply) (w : Workspace) (id : Nat) : Agenda :=
  if w.isUndoManagerUsed id then
    let (reports, w') := modification { w with informed := id :: w.informed } id
    ⟨reports ++ [.informed w.informed], reply, w'⟩
  else ⟨[], reply, w⟩

def hear (reply : Reply) (w : Workspace) (event : EngineEvent) : EngineListener → Agenda
  | .session id => sessionHears reply w event id
  | .undoManager id => inform reply w id
  | .metadataRelay editor =>
    match event with
    | .metadataChanged set removed => ⟨[.report editor (.metadataChanged set removed)], reply, w⟩
    | _ => ⟨[], reply, w⟩
  | .observer id => ⟨[.tell (.engine event) id], reply, w⟩

def announcement (w : Workspace) (id : Nat) (event : SessionEvent) : List Task :=
  match w.sessions.get? id with
  | none => []
  | some s => (s.bus.handlers event.signal).map (.tell (.session event))

def react (reply : Reply) (w : Workspace) (id : Nat) (reaction : Reaction) : Agenda :=
  match w.sessions.get? id with
  | none => ⟨[], reply, w⟩
  | some s =>
    let (core, event) := s.core.react w.engine.replica reaction
    let w := w.modifySession id fun s => { s with core }
    match event with
    | some event => ⟨announcement w id event, reply, w⟩
    | none => ⟨[], reply, w⟩

def commands (label : String) (actions : List Command) : List Task :=
  actions.flatMap fun c => [.perform c, .note label]

def tell (reply : Reply) (w : Workspace) (event : AnyEvent) (id : Nat) : Agenda :=
  match w.observers.get? id with
  | none => ⟨[], reply, w⟩
  | some o =>
    ⟨commands o.label o.answer.1 ++ [.answer reply], reply,
      { w.record (.observer (.heard o.label event)) with
        observers := w.observers.insert id o.answer.2 }⟩

def report (reply : Reply) (w : Workspace) (editor : Nat) (event : EditorEvent) : Agenda :=
  match w.editor? editor with
  | none => ⟨[], reply, w⟩
  | some e =>
    ⟨(e.bus.handlers event.signal).map (.tell (.editor event)) ++ [.reporting w.reporting],
      reply, { w with reporting := editor :: w.reporting }⟩

/-- Begins a task; the tasks of the result are what it consists of. -/
def begin (reply : Reply) (w : Workspace) : Task → Agenda
  | .perform command => perform reply w command
  | .drain => drain reply w
  | .shut => shut reply w
  | .publish event => ⟨(w.engine.bus.handlers event.signal).map (.hear event), reply, w⟩
  | .hear event listener => hear reply w event listener
  | .react id reaction => react reply w id reaction
  | .tell event observer => tell reply w event observer
  | .report editor event => report reply w editor event
  | task => ⟨[], (task.outcome reply w).1, (task.outcome reply w).2⟩

def before (a : Agenda) (rest : List Task) : Agenda := { a with tasks := a.tasks ++ rest }

def next (a : Agenda) : Agenda :=
  match a.tasks with
  | [] => a
  | task :: rest => (begin a.reply a.workspace task).before rest

def after : Nat → Agenda → Agenda
  | 0, a => a
  | n + 1, a => after n a.next

def finish (a : Agenda) : Reply × Workspace := Task.outcomes a.tasks (a.reply, a.workspace)

/-- The agenda of commands given from outside, one after the other. -/
def start (commands : List Command) (w : Workspace) : Agenda :=
  { tasks := commands.map .perform, workspace := w }

/-! ## A step changes nothing about the result -/

theorem outcomes_append (first second : List Task) (s : Reply × Workspace) :
    Task.outcomes (first ++ second) s = Task.outcomes second (Task.outcomes first s) := by
  induction first generalizing s with
  | nil => rfl
  | cons task rest ih => exact ih _

theorem finish_before (a : Agenda) (rest : List Task) :
    (a.before rest).finish = Task.outcomes rest a.finish :=
  outcomes_append a.tasks rest _

/-- Tasks that leave the reply alone are a fold over the workspace. -/
theorem outcomes_map {β : Type} {task : β → Task} {f : Workspace → β → Workspace}
    (h : ∀ b reply w, (task b).outcome reply w = (reply, f w b)) (l : List β) (reply : Reply)
    (w : Workspace) : Task.outcomes (l.map task) (reply, w) = (reply, l.foldl f w) := by
  induction l generalizing w with
  | nil => rfl
  | cons b rest ih =>
      rw [List.map_cons, Task.outcomes, h, List.foldl_cons]
      exact ih _

/-- Delivering an event is one task for each handler. -/
theorem outcomes_handlers {κ η : Type} [SignalKind κ] (bus : SignalBus κ η) (kind : κ)
    {task : η → Task} {invoke : η → Workspace → Workspace}
    (h : ∀ x reply w, (task x).outcome reply w = (reply, invoke x w)) (reply : Reply)
    (w : Workspace) :
    Task.outcomes ((bus.handlers kind).map task) (reply, w) =
      (reply, bus.deliver kind invoke w) :=
  outcomes_map h _ reply w

theorem outcomes_followUp (tasks : List Task) (reply : Reply) (w : Workspace) :
    Task.outcomes (followUp w ++ tasks) (reply, w) =
      Task.outcomes tasks (reply, w.followUp Workspace.conduct) := by
  rw [outcomes_append]
  unfold followUp Workspace.followUp
  cases w.engine.immediate <;> rfl

theorem finish_enqueue (reply : Reply) (w : Workspace) (batch : Batch) :
    (enqueue reply w batch).finish = w.execute (.engine (.enqueue batch)) := by
  rw [Workspace.execute_eq_step]
  show _ = Workspace.reply .engine (w.enqueue Workspace.conduct batch)
  unfold enqueue Workspace.enqueue
  cases w.take batch with
  | error cause => rfl
  | ok w' => exact outcomes_followUp [.answer .done] reply w'

theorem finish_flush (reply : Reply) (w : Workspace) :
    (perform reply w (.engine .flush)).finish = w.execute (.engine .flush) := by
  rw [Workspace.execute_eq_step]
  rfl

theorem finish_close (reply : Reply) (w : Workspace) :
    (close reply w).finish = w.execute (.engine .close) := by
  rw [Workspace.execute_eq_step]
  show _ = Workspace.reply .engine (w.closeEngine Workspace.conduct)
  unfold close Workspace.closeEngine
  cases w.engine.isOpen <;> rfl

theorem finish_edit (reply : Reply) (w : Workspace) (e : Edit) :
    (edit reply w e).finish = w.execute (.session (.edit e)) := by
  rw [Workspace.execute_eq_step]
  simp only [edit, Workspace.step, Workspace.withSession]
  cases w.meantSession with
  | none => rfl
  | some meant =>
      obtain ⟨place, session⟩ := meant
      cases session with
      | none =>
          simp only [Workspace.holding]
          cases w.isFree place .shared <;> rfl
      | some id =>
          simp only [Workspace.holding]
          cases w.isFree place .shared with
          | false => rfl
          | true =>
              simp only [if_true, Workspace.doSession, Workspace.edit]
              cases { w with holds := (place, Access.shared) :: w.holds }.queueEdit id e with
              | mk answer held =>
                  cases answer with
                  | error cause => rfl
                  | ok made =>
                      obtain ⟨answer, queued⟩ := made
                      cases queued with
                      | false => rfl
                      | true =>
                          simp only [if_true]
                          exact outcomes_followUp
                            [.answer (.edited answer), .holding w.holds] reply held

theorem finish_perform (reply : Reply) (w : Workspace) (command : Command) :
    (perform reply w command).finish = w.execute command := by
  cases command with
  | engine c =>
      cases c with
      | enqueue batch => exact finish_enqueue reply w batch
      | flush => exact finish_flush reply w
      | close => exact finish_close reply w
      | _ => rfl
  | session c =>
      cases c with
      | edit e => exact finish_edit reply w e
      | _ => rfl
  | _ => rfl

theorem outcomes_publish (events : List EngineEvent) (task : Task) (reply : Reply)
    (w : Workspace) :
    Task.outcomes (events.map .publish ++ [task]) (reply, w) =
      task.outcome reply (events.foldl (Workspace.publish Workspace.conduct) w) := by
  rw [outcomes_append, outcomes_map (f := Workspace.publish Workspace.conduct) fun _ _ _ => rfl]
  rfl

theorem finish_drain (reply : Reply) (w : Workspace) :
    (drain reply w).finish = (reply, w.flush Workspace.conduct) := by
  unfold drain
  cases h : w.engine.applyNext? with
  | none =>
      rw [Workspace.flush_of_empty h]
      rfl
  | some next =>
      obtain ⟨events, engine⟩ := next
      rw [Workspace.flush_of_applyNext? Workspace.frugal_conduct h]
      exact outcomes_publish events .drain reply { w with engine }

theorem finish_shut (reply : Reply) (w : Workspace) :
    (shut reply w).finish = Workspace.reply .engine (w.flush Workspace.conduct).closeNow := by
  unfold shut
  cases h : w.engine.applyNext? with
  | none =>
      rw [Workspace.flush_of_empty h]
      rfl
  | some next =>
      obtain ⟨events, engine⟩ := next
      rw [Workspace.flush_of_applyNext? Workspace.frugal_conduct h]
      exact outcomes_publish events .shut reply { w with engine }

theorem finish_sessionHears (reply : Reply) (w : Workspace) (event : EngineEvent) (id : Nat) :
    (sessionHears reply w event id).finish =
      (reply, w.sessionHears Workspace.conduct event id) := by
  unfold sessionHears Workspace.sessionHears
  cases w.sessions.get? id with
  | none => rfl
  | some s =>
      simp only
      split
      · show Task.outcomes (_ ++ [_]) (reply, w.beginReaction id) = _
        rw [outcomes_append, outcomes_map (f := Workspace.reactOnce Workspace.conduct id)
          fun _ _ _ => rfl]
        rfl
      · rfl

theorem outcomes_modification (reply : Reply) (w : Workspace) (id : Nat) :
    Task.outcomes (modification w id).1 (reply, (modification w id).2) =
      (reply, w.setModified Workspace.conduct id true) := by
  unfold modification Workspace.setModified
  cases w.undoManagers.get? id with
  | none => rfl
  | some m =>
      simp only
      split
      · exact outcomes_handlers _ _ (fun _ _ _ => rfl) reply _
      · rfl

theorem finish_inform (reply : Reply) (w : Workspace) (id : Nat) :
    (inform reply w id).finish = (reply, w.inform Workspace.conduct id) := by
  unfold inform Workspace.inform
  split
  · show Task.outcomes (_ ++ [_]) _ = _
    rw [outcomes_append, outcomes_modification]
    rfl
  · rfl

theorem finish_hear (reply : Reply) (w : Workspace) (event : EngineEvent)
    (listener : EngineListener) :
    (hear reply w event listener).finish =
      (reply, w.hear Workspace.conduct event listener) := by
  cases listener with
  | session id => exact finish_sessionHears reply w event id
  | undoManager id => exact finish_inform reply w id
  | metadataRelay editor => cases event <;> rfl
  | observer id => rfl

theorem outcomes_announcement (reply : Reply) (w : Workspace) (id : Nat)
    (event : SessionEvent) :
    Task.outcomes (announcement w id event) (reply, w) =
      (reply, w.announce Workspace.conduct id event) := by
  unfold announcement Workspace.announce
  cases w.sessions.get? id with
  | none => rfl
  | some s => exact outcomes_handlers _ _ (fun _ _ _ => rfl) reply w

theorem finish_react (reply : Reply) (w : Workspace) (id : Nat) (reaction : Reaction) :
    (react reply w id reaction).finish =
      (reply, w.reactOnce Workspace.conduct id reaction) := by
  unfold react Workspace.reactOnce
  cases w.sessions.get? id with
  | none => rfl
  | some s =>
      simp only
      cases (s.core.react w.engine.replica reaction).2 with
      | none => rfl
      | some event => exact outcomes_announcement reply _ id event

theorem outcomes_commands (label : String) (actions : List Command) (reply : Reply)
    (w : Workspace) :
    (Task.outcomes (commands label actions) (reply, w)).2 =
      carryOut Workspace.conduct (fun r => Workspace.record (.observer (.did label r)))
        actions w := by
  induction actions generalizing reply w with
  | nil => rfl
  | cons c rest ih => exact ih _ _

theorem finish_tell (reply : Reply) (w : Workspace) (event : AnyEvent) (id : Nat) :
    (tell reply w event id).finish = (reply, w.notify Workspace.conduct event id) := by
  unfold tell Workspace.notify
  cases w.observers.get? id with
  | none => rfl
  | some o =>
      show Task.outcomes (_ ++ [_]) _ = _
      rw [outcomes_append]
      exact congrArg (Prod.mk reply) (outcomes_commands o.label o.answer.1 reply _)

theorem finish_report (reply : Reply) (w : Workspace) (editor : Nat) (event : EditorEvent) :
    (report reply w editor event).finish =
      (reply, w.report Workspace.conduct editor event) := by
  unfold report Workspace.report
  cases w.editor? editor with
  | none => rfl
  | some e =>
      show Task.outcomes (_ ++ [_]) _ = _
      rw [outcomes_append, outcomes_handlers _ _ (fun _ _ _ => rfl)]
      rfl

theorem finish_begin (reply : Reply) (w : Workspace) (task : Task) :
    (begin reply w task).finish = task.outcome reply w := by
  cases task with
  | perform command => exact finish_perform reply w command
  | drain => exact finish_drain reply w
  | shut => exact finish_shut reply w
  | publish event => exact outcomes_handlers _ _ (fun _ _ _ => rfl) reply w
  | hear event listener => exact finish_hear reply w event listener
  | react id reaction => exact finish_react reply w id reaction
  | tell event observer => exact finish_tell reply w event observer
  | report editor event => exact finish_report reply w editor event
  | _ => rfl

theorem finish_next (a : Agenda) : a.next.finish = a.finish := by
  unfold next finish
  cases h : a.tasks with
  | nil => simp [h, Task.outcomes]
  | cons task rest =>
      show ((begin a.reply a.workspace task).before rest).finish = _
      rw [finish_before, finish_begin]
      rfl

theorem finish_after (n : Nat) (a : Agenda) : (a.after n).finish = a.finish := by
  induction n generalizing a with
  | zero => rfl
  | succ n ih => exact (ih a.next).trans (finish_next a)

/-- The agenda of commands comes to what carrying them out in turn gives. -/
theorem finish_start (commands : List Command) (w : Workspace) :
    (start commands w).finish.2 = commands.foldl (fun w c => (w.execute c).2) w := by
  suffices h : ∀ reply, (Task.outcomes (commands.map .perform) (reply, w)).2 =
      commands.foldl (fun w c => (w.execute c).2) w from h .done
  induction commands generalizing w with
  | nil => exact fun _ => rfl
  | cons c rest ih => exact fun _ => ih (w.execute c).2 (w.execute c).1

/-- When nothing is left to do, the commands have been carried out. -/
theorem workspace_of_done {commands : List Command} {w : Workspace} {n : Nat}
    (h : ((start commands w).after n).tasks = []) :
    ((start commands w).after n).workspace =
      commands.foldl (fun w c => (w.execute c).2) w := by
  rw [← finish_start, ← finish_after n (start commands w)]
  unfold finish
  rw [h]
  rfl

end Agenda

end Coedit
