import Coedit.Proofs.Workspace.Deliveries

/-!
# The queue in every run

Between two loads an engine accepts batches, refuses some, and applies others, while its
subscribers may enqueue, flush and close from inside the deliveries of a flush that is itself
under way. The history of a run lists these deeds at the moment they happen. However deep the
flushes nest, what was accepted is what was applied followed by what is queued.
-/

namespace Coedit

/-! ## Work on the queue -/

mutual

/-- Commands to an engine that neither load a document nor take the record of what was
submitted; those who watch the engine give only such commands. -/
def Command.onQueue : Command → Bool
  | .engine (.load _) => false
  | .engine .takeSubmitted => false
  | .engine _ => true
  | .watchEngine _ _ actions _ => Command.allOnQueue actions
  | _ => false

def Command.allOnQueue : List Command → Bool
  | [] => true
  | c :: rest => c.onQueue && Command.allOnQueue rest

end

theorem Command.allOnQueue_iff {l : List Command} :
    Command.allOnQueue l = true ↔ ∀ c ∈ l, c.onQueue = true := by
  induction l with
  | nil => simp [Command.allOnQueue]
  | cons c rest ih => simp [Command.allOnQueue, ih]

inductive Deed where
  | accepted (batch : Batch)
  | refused (batch : Batch) (cause : EngineError)
  | applied (batch : Batch)

namespace Deed

def acceptedBatch? : Deed → Option Batch
  | accepted batch => some batch
  | _ => none

def appliedBatch? : Deed → Option Batch
  | applied batch => some batch
  | _ => none

/-- What a deed changes about an engine, if there is one. Without one, an engine may at most
be closed, when its queue is empty. -/
def Effect : Option Deed → Engine EngineListener → Engine EngineListener → Prop
  | none, e, e' =>
    e'.pending = e.pending ∧ e'.submitted = e.submitted ∧ e'.replica = e.replica ∧
      (e'.phase = e.phase ∨ e.pending = [] ∧ e'.phase = .closed)
  | some (accepted batch), e, e' =>
    e'.pending = e.pending ++ [batch] ∧ e'.submitted = e.submitted ++ [batch] ∧
      e'.replica = e.replica ∧ e.phase = .opened ∧ e'.phase = .opened
  | some (refused _ cause), e, e' =>
    e' = e ∧ (e.phase = .idle ∧ cause = .notLoaded ∨ e.phase = .closed ∧ cause = .closed)
  | some (applied batch), e, e' =>
    e.pending = batch :: e'.pending ∧ e'.submitted = e.submitted ∧
      e'.replica = (e.replica.applyBatch batch).1 ∧ e'.phase = e.phase

end Deed

def acceptedBatches (deeds : List Deed) : List Batch := deeds.filterMap Deed.acceptedBatch?

def appliedBatches (deeds : List Deed) : List Batch := deeds.filterMap Deed.appliedBatch?

namespace Agenda

def deed? (a : Agenda) : Option Deed :=
  match a.tasks with
  | .perform (.engine (.enqueue batch)) :: _ =>
    match a.workspace.take batch with
    | .ok _ => some (.accepted batch)
    | .error cause => some (.refused batch cause)
  | .drain :: _ | .shut :: _ => a.workspace.engine.pending.head?.map .applied
  | _ => none

def deeds : Nat → Agenda → List Deed
  | 0, _ => []
  | n + 1, a => a.deed?.toList ++ deeds n a.next

def OnQueue (a : Agenda) : Prop := Within (fun c => c.onQueue = true) a

/-! ## One command -/

def queued (e : Engine EngineListener) (batch : Batch) : Engine EngineListener :=
  { e with submitted := e.submitted ++ [batch], pending := e.pending ++ [batch] }

theorem engine_take {batch : Batch} {w w' : Workspace} (h : w.take batch = .ok w') :
    w.engine.phase = .opened ∧ w' = { w with engine := queued w.engine batch } := by
  unfold Workspace.take Engine.accept at h
  rcases hp : w.engine.phase with _ | _ | _ <;> simp only [hp, Except.ok.injEq, reduceCtorEq] at h
  refine ⟨rfl, ?_⟩
  rw [← h]
  simp only [queued, hp]

theorem cause_of_take {batch : Batch} {w : Workspace} {cause : EngineError}
    (h : w.take batch = .error cause) :
    w.engine.phase = .idle ∧ cause = .notLoaded ∨ w.engine.phase = .closed ∧ cause = .closed := by
  unfold Workspace.take Engine.accept at h
  cases hp : w.engine.phase with
  | idle => exact .inl ⟨rfl, by simpa [hp] using h.symm⟩
  | closed => exact .inr ⟨rfl, by simpa [hp] using h.symm⟩
  | opened => simp [hp] at h

theorem reply_of_take {batch : Batch} {w w' : Workspace} (h : w.take batch = .ok w') :
    (w.execute (.engine (.enqueue batch))).1 = .done := by
  rw [Workspace.execute_eq_step]
  show (Workspace.reply .engine (w.enqueue Workspace.conduct batch)).1 = _
  unfold Workspace.enqueue
  rw [h]
  rfl

/-- A batch that is refused leaves the workspace as it was. -/
theorem execute_of_refused {batch : Batch} {w : Workspace} {cause : EngineError}
    (h : w.take batch = .error cause) :
    w.execute (.engine (.enqueue batch)) = (.failed (.engine cause), w) := by
  rw [Workspace.execute_eq_step]
  show Workspace.reply .engine (w.enqueue Workspace.conduct batch) = _
  unfold Workspace.enqueue
  rw [h]
  rfl

theorem take_of_accepted {a : Agenda} {batch : Batch} (h : a.deed? = some (.accepted batch)) :
    ∃ w', a.workspace.take batch = .ok w' := by
  unfold deed? at h
  split at h
  · rename_i other rest htasks
    cases ht : a.workspace.take other with
    | error cause => simp [ht] at h
    | ok w' =>
        simp only [ht, Option.some.injEq, Deed.accepted.injEq] at h
        exact ⟨w', h ▸ ht⟩
  · simp at h
  · simp at h
  · cases h

theorem take_of_refusal {a : Agenda} {batch : Batch} {cause : EngineError}
    (h : a.deed? = some (.refused batch cause)) :
    (∃ rest, a.tasks = .perform (.engine (.enqueue batch)) :: rest) ∧
      a.workspace.take batch = .error cause := by
  unfold deed? at h
  split at h
  · rename_i other rest htasks
    cases ht : a.workspace.take other with
    | error cause' =>
        simp only [ht, Option.some.injEq, Deed.refused.injEq] at h
        obtain ⟨rfl, rfl⟩ := h
        exact ⟨⟨rest, htasks⟩, ht⟩
    | ok w' => simp [ht] at h
  · simp at h
  · simp at h
  · cases h

theorem next_of_refusal {a : Agenda} {batch : Batch} {cause : EngineError}
    (h : a.deed? = some (.refused batch cause)) : a.next.workspace = a.workspace := by
  obtain ⟨⟨rest, htasks⟩, ht⟩ := take_of_refusal h
  unfold next
  rw [htasks]
  simp only [begin, perform, enqueue, ht]
  rfl

theorem within_enqueue {allowed : Command → Prop} {w : Workspace}
    (h : ObserversGive allowed w) (reply : Reply) (batch : Batch) :
    Within allowed (enqueue reply w batch) := by
  unfold enqueue
  cases ht : w.take batch with
  | error cause => exact within_of_observers h (fun c => List.not_mem_nil) rfl
  | ok w' =>
      obtain ⟨-, rfl⟩ := engine_take ht
      refine within_of_observers h (fun c hc => ?_) rfl
      simp only [followUp] at hc
      split at hc <;> simp at hc

theorem within_close {allowed : Command → Prop} {w : Workspace} (h : ObserversGive allowed w)
    (reply : Reply) : Within allowed (close reply w) := by
  unfold close
  split
  · exact within_of_observers h (fun c hc => by simp at hc) rfl
  · exact within_of_observers h (fun c => List.not_mem_nil) rfl

theorem observers_addObserver {allowed : Command → Prop} {w : Workspace}
    (h : ObserversGive allowed w) (label : String) {actions : List Command}
    (hactions : ∀ c ∈ actions, allowed c) (times : Nat) :
    ObserversGive allowed (w.addObserver label actions times) :=
  Dict.forall_insert hactions h

theorem within_watchEngine {allowed : Command → Prop} {w : Workspace}
    (h : ObserversGive allowed w) (signal : EngineSignal) (label : String)
    {actions : List Command} (hactions : ∀ c ∈ actions, allowed c) (times : Nat) :
    ObserversGive allowed (w.watchEngine signal label actions times).2 := by
  unfold Workspace.watchEngine
  cases w.engine.subscribe signal (.observer w.nextId) with
  | error cause => exact h
  | ok made => exact observers_addObserver h label hactions times

/-- Work on the queue brings no commands but those of new observers. -/
theorem within_perform_of_onQueue {allowed : Command → Prop} {c : Command} (hc : c.onQueue = true)
    (hactions : ∀ signal label actions times, c = .watchEngine signal label actions times →
      ∀ c ∈ actions, allowed c)
    {w : Workspace} (h : ObserversGive allowed w) (reply : Reply) :
    Within allowed (perform reply w c) := by
  cases c with
  | engine c =>
      cases c with
      | enqueue batch => exact within_enqueue h reply batch
      | flush => exact within_of_observers h (fun c hc => by simp [perform] at hc) rfl
      | close => exact within_close h reply
      | load url => simp [Command.onQueue] at hc
      | takeSubmitted => simp [Command.onQueue] at hc
      | _ =>
          refine within_of_observers h (fun c => List.not_mem_nil) ?_
          simp only [perform, Workspace.execute_eq_step]
          rfl
  | watchEngine signal label actions times =>
      refine ⟨fun c hc => (List.not_mem_nil hc).elim, ?_⟩
      simp only [perform, Workspace.execute_eq_step]
      exact within_watchEngine h signal label (hactions signal label actions times rfl) times
  | _ => simp [Command.onQueue] at hc

theorem within_perform {c : Command} (hc : c.onQueue = true) {w : Workspace}
    (h : ObserversGive (fun c => c.onQueue = true) w) (reply : Reply) :
    Within (fun c => c.onQueue = true) (perform reply w c) := by
  refine within_perform_of_onQueue hc ?_ h reply
  rintro signal label actions times rfl
  exact Command.allOnQueue_iff.1 (by simpa [Command.onQueue] using hc)

/-! ## One step -/

theorem effect_enqueue (reply : Reply) (w : Workspace) (batch : Batch) (rest : List Task) :
    Deed.Effect (deed? ⟨.perform (.engine (.enqueue batch)) :: rest, reply, w⟩) w.engine
      (enqueue reply w batch).workspace.engine := by
  unfold enqueue
  simp only [deed?]
  cases ht : w.take batch with
  | error cause => exact ⟨rfl, cause_of_take ht⟩
  | ok w' =>
      obtain ⟨hphase, rfl⟩ := engine_take ht
      exact ⟨rfl, rfl, rfl, hphase, hphase⟩

theorem effect_finishClose {e : Engine EngineListener} (h : e.pending = []) :
    Deed.Effect none e e.finishClose.2 := by
  unfold Engine.finishClose
  cases e.closeFailure with
  | none => exact ⟨rfl, rfl, rfl, .inr ⟨h, rfl⟩⟩
  | some reason => exact ⟨rfl, rfl, rfl, .inl rfl⟩

theorem engine_closeNow (w : Workspace) :
    (Workspace.reply .engine w.closeNow).2.engine = w.engine.finishClose.2 := by
  unfold Workspace.closeNow
  cases w.engine.finishClose.1 <;> rfl

theorem effect_drain (reply : Reply) (w : Workspace) (rest : List Task) :
    Deed.Effect (deed? ⟨.drain :: rest, reply, w⟩) w.engine (drain reply w).workspace.engine := by
  unfold drain
  simp only [deed?]
  obtain ⟨hempty, hnone⟩ | ⟨batch, later, hpending, hsome⟩ := Engine.applyNext?_cases w.engine
  · rw [hnone, hempty]
    exact ⟨rfl, rfl, rfl, .inl rfl⟩
  · rw [hsome, hpending]
    exact ⟨hpending, rfl, rfl, rfl⟩

theorem effect_shut (reply : Reply) (w : Workspace) (rest : List Task) :
    Deed.Effect (deed? ⟨.shut :: rest, reply, w⟩) w.engine (shut reply w).workspace.engine := by
  unfold shut
  simp only [deed?]
  obtain ⟨hempty, hnone⟩ | ⟨batch, later, hpending, hsome⟩ := Engine.applyNext?_cases w.engine
  · rw [hnone, hempty]
    simp only [engine_closeNow]
    exact effect_finishClose hempty
  · rw [hsome, hpending]
    exact ⟨hpending, rfl, rfl, rfl⟩

theorem effect_perform {c : Command} (hc : c.onQueue = true) (reply : Reply) (w : Workspace)
    (rest : List Task) :
    Deed.Effect (deed? ⟨.perform c :: rest, reply, w⟩) w.engine
      (perform reply w c).workspace.engine := by
  cases c with
  | engine c =>
      cases c with
      | enqueue batch => exact effect_enqueue reply w batch rest
      | flush => exact ⟨rfl, rfl, rfl, .inl rfl⟩
      | close =>
          simp only [perform, close]
          split <;> exact ⟨rfl, rfl, rfl, .inl rfl⟩
      | load url => simp [Command.onQueue] at hc
      | takeSubmitted => simp [Command.onQueue] at hc
      | _ =>
          simp only [perform, Workspace.execute_eq_step]
          exact ⟨rfl, rfl, rfl, .inl rfl⟩
  | watchEngine signal label actions times =>
      simp only [perform, Workspace.execute_eq_step, Workspace.step, Workspace.watchEngine,
        Engine.subscribe]
      cases w.engine.bus.subscribe signal (.observer w.nextId) <;> exact ⟨rfl, rfl, rfl, .inl rfl⟩
  | _ => simp [Command.onQueue] at hc

/-- A step of work on the queue does to the engine what its deed says, and nothing else. -/
theorem effect_next {a : Agenda} (h : OnQueue a) :
    Deed.Effect a.deed? a.workspace.engine a.next.workspace.engine := by
  obtain ⟨tasks, reply, w⟩ := a
  cases tasks with
  | nil => exact ⟨rfl, rfl, rfl, .inl rfl⟩
  | cons task rest =>
      show Deed.Effect _ w.engine (begin reply w task).workspace.engine
      cases task with
      | perform c => exact effect_perform (h.commands c (by simp)) reply w rest
      | drain => exact effect_drain reply w rest
      | shut => exact effect_shut reply w rest
      | _ =>
          rw [engine_begin rfl]
          exact ⟨rfl, rfl, rfl, .inl rfl⟩

theorem onQueue_next {a : Agenda} (h : OnQueue a) : OnQueue a.next :=
  within_next h fun _ reply _ hc hobservers => within_perform hc hobservers reply

/-! ## A whole run -/

structure Ledger (e : Engine EngineListener) (deeds : List Deed)
    (e' : Engine EngineListener) : Prop where
  submitted : e'.submitted = e.submitted ++ acceptedBatches deeds
  queue : e.pending ++ acceptedBatches deeds = appliedBatches deeds ++ e'.pending
  replica : e'.replica =
    (appliedBatches deeds).foldl (fun r batch => (r.applyBatch batch).1) e.replica

theorem Ledger.refl (e : Engine EngineListener) : Ledger e [] e where
  submitted := (List.append_nil _).symm
  queue := List.append_nil _
  replica := rfl

theorem Ledger.of_effect {deed : Option Deed} {e e' : Engine EngineListener}
    (h : Deed.Effect deed e e') : Ledger e deed.toList e' := by
  rcases deed with _ | batch | ⟨batch, cause⟩ | batch
  · obtain ⟨hpending, hsubmitted, hreplica, -⟩ := h
    exact ⟨hsubmitted.trans (List.append_nil _).symm, (List.append_nil _).trans hpending.symm,
      hreplica⟩
  · obtain ⟨hpending, hsubmitted, hreplica, -⟩ := h
    exact ⟨hsubmitted, hpending.symm, hreplica⟩
  · obtain ⟨rfl, -⟩ := h
    exact ⟨(List.append_nil _).symm, List.append_nil _, rfl⟩
  · obtain ⟨hpending, hsubmitted, hreplica, -⟩ := h
    exact ⟨hsubmitted.trans (List.append_nil _).symm, (List.append_nil _).trans hpending,
      hreplica⟩

theorem Ledger.trans {e e' e'' : Engine EngineListener} {first second : List Deed}
    (h : Ledger e first e') (h' : Ledger e' second e'') : Ledger e (first ++ second) e'' where
  submitted := by
    rw [h'.submitted, h.submitted, acceptedBatches, acceptedBatches, acceptedBatches,
      List.filterMap_append, List.append_assoc]
  queue := by
    have hfirst := h.queue
    have hsecond := h'.queue
    unfold acceptedBatches appliedBatches at *
    rw [List.filterMap_append, List.filterMap_append, ← List.append_assoc, hfirst,
      List.append_assoc, hsecond, List.append_assoc]
  replica := by
    rw [h'.replica, h.replica, appliedBatches, appliedBatches, appliedBatches,
      List.filterMap_append, List.foldl_append]

theorem ledger_after {a : Agenda} (h : OnQueue a) (n : Nat) :
    Ledger a.workspace.engine (a.deeds n) (a.after n).workspace.engine := by
  induction n generalizing a with
  | zero => exact Ledger.refl _
  | succ n ih => exact (Ledger.of_effect (effect_next h)).trans (ih (onQueue_next h))

def Settled (e : Engine EngineListener) : Prop := e.phase ≠ .opened → e.pending = []

theorem settled_of_effect {deed : Option Deed} {e e' : Engine EngineListener}
    (h : Deed.Effect deed e e') (hsettled : Settled e) : Settled e' := by
  intro hphase
  rcases deed with _ | batch | ⟨batch, cause⟩ | batch
  · obtain ⟨hpending, -, -, hkept | ⟨hempty, -⟩⟩ := h
    · rw [hpending]
      exact hsettled (hkept ▸ hphase)
    · rw [hpending, hempty]
  · obtain ⟨-, -, -, -, hopened⟩ := h
    exact (hphase hopened).elim
  · obtain ⟨rfl, -⟩ := h
    exact hsettled hphase
  · obtain ⟨hpending, -, -, hkept⟩ := h
    have hnone := hsettled (hkept ▸ hphase)
    rw [hpending] at hnone
    cases hnone

theorem settled_after {a : Agenda} (h : OnQueue a) (hsettled : Settled a.workspace.engine)
    (n : Nat) : Settled (a.after n).workspace.engine := by
  induction n generalizing a with
  | zero => exact hsettled
  | succ n ih => exact ih (onQueue_next h) (settled_of_effect (effect_next h) hsettled)

theorem pending_execute_flush (w : Workspace) :
    (w.execute (.engine .flush)).2.engine.pending = [] := by
  rw [Workspace.execute_eq_step]
  exact Workspace.pending_flush Workspace.frugal_conduct w

theorem pending_execute_close {w : Workspace} (h : Settled w.engine) :
    (w.execute (.engine .close)).2.engine.pending = [] := by
  rw [← finish_close .done w]
  unfold close
  cases hopen : w.engine.isOpen with
  | false =>
      have hphase : w.engine.phase ≠ .opened := by
        intro hopened
        simp [Engine.isOpen, hopened] at hopen
      exact h hphase
  | true =>
      show (Workspace.reply .engine (w.flush Workspace.conduct).closeNow).2.engine.pending = []
      have hflush := Workspace.pending_flush Workspace.frugal_conduct w
      rw [engine_closeNow, ← hflush]
      exact (effect_finishClose hflush).1

/-- No accepted batch is lost, duplicated or reordered: at every moment of a run that starts
with an empty queue and loads nothing, the accepted batches are the applied ones followed by
the queued ones, and the replica is what applying them has made of the first one. The record of
submitted batches grows by just the accepted ones, a refused batch leaves no trace, and a flush
or a close leaves nothing queued. -/
theorem applied_in_accepted_order {w : Workspace} {commands : List Command}
    (hempty : w.engine.pending = []) (hcommands : ∀ c ∈ commands, c.onQueue = true)
    (hobservers : ObserversGive (fun c => c.onQueue = true) w) (n : Nat) :
    let a := (start commands w).after n
    let accepted := acceptedBatches ((start commands w).deeds n)
    let applied := appliedBatches ((start commands w).deeds n)
    accepted = applied ++ a.workspace.engine.pending ∧
    a.workspace.engine.replica =
      applied.foldl (fun r batch => (r.applyBatch batch).1) w.engine.replica ∧
    a.workspace.engine.submitted = w.engine.submitted ++ accepted ∧
    (∀ batch, a.deed? = some (.accepted batch) →
      (a.workspace.execute (.engine (.enqueue batch))).1 = .done) ∧
    (∀ batch cause, a.deed? = some (.refused batch cause) →
      (cause = .notLoaded ∨ cause = .closed) ∧
        a.workspace.execute (.engine (.enqueue batch)) =
          (.failed (.engine cause), a.workspace) ∧
        a.next.workspace = a.workspace) ∧
    (a.workspace.execute (.engine .flush)).2.engine.pending = [] ∧
    (a.workspace.execute (.engine .close)).2.engine.pending = [] ∧
    (a.tasks = [] → a.workspace = commands.foldl (fun w c => (w.execute c).2) w) := by
  have hstart : OnQueue (start commands w) := within_start hcommands hobservers
  have ledger := ledger_after hstart n
  have hsettled : Settled ((start commands w).after n).workspace.engine :=
    settled_after hstart (fun _ => hempty) n
  have hqueue := ledger.queue
  simp only [start, hempty, List.nil_append] at hqueue
  refine ⟨hqueue, ledger.replica, ledger.submitted, ?_, ?_, pending_execute_flush _,
    pending_execute_close hsettled, workspace_of_done⟩
  · intro batch hdeed
    obtain ⟨w', ht⟩ := take_of_accepted hdeed
    exact reply_of_take ht
  · intro batch cause hdeed
    obtain ⟨-, ht⟩ := take_of_refusal hdeed
    refine ⟨?_, execute_of_refused ht, next_of_refusal hdeed⟩
    rcases cause_of_take ht with ⟨-, hcause⟩ | ⟨-, hcause⟩
    · exact .inl hcause
    · exact .inr hcause

/-- An observer that enqueues and flushes while the batch that it hears of is being flushed. -/
def nestedFlush (member : MemberId) : List Command :=
  [.watchEngine .memberAdded "nested" [.engine (.enqueue [.removeMember member]), .engine .flush] 1,
    .engine (.enqueue [.addMember member {}]), .engine (.enqueue [.addCursor member]),
    .engine .flush, .engine .close]

/-- While the inner flush is under way, one of three accepted batches is still queued. -/
theorem applied_in_accepted_order_nested :
    let w : Workspace := { engine := { phase := .opened } }
    let a := start (nestedFlush ⟨"m"⟩) w
    acceptedBatches (a.deeds 16) =
      appliedBatches (a.deeds 16) ++ (a.after 16).workspace.engine.pending := by
  have hcommands : ∀ c ∈ nestedFlush ⟨"m"⟩, c.onQueue = true := by decide
  have hobservers : ObserversGive (fun c => c.onQueue = true)
      { engine := { phase := .opened } } := fun _ _ h => by cases h
  exact (applied_in_accepted_order rfl hcommands hobservers 16).1

end Agenda

end Coedit
