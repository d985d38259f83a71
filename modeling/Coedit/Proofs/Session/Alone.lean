import Coedit.Proofs.Workspace.Queue

/-!
# A session alone with its engine

The queue of an engine may be fed by one session only: the standalone one, which is asked for
edits from outside and by those who watch it. No run of such commands gives the workspace an
editor or another session.
-/

namespace Coedit

mutual

/-- What a session and its engine may be asked here: edits, flushes, and changes of the mode
in which batches are applied; those who watch the session give only such commands. -/
def Command.bySession : Command → Bool
  | .session (.edit _) | .session (.ask _) => true
  | .engine .flush | .engine (.setImmediate _) | .engine (.ask _) => true
  | .watchSession _ _ actions _ => Command.allBySession actions
  | _ => false

def Command.allBySession : List Command → Bool
  | [] => true
  | c :: rest => c.bySession && Command.allBySession rest

end

theorem Command.allBySession_iff {l : List Command} :
    Command.allBySession l = true ↔ ∀ c ∈ l, c.bySession = true := by
  induction l with
  | nil => simp [Command.allBySession]
  | cons c rest ih => simp [Command.allBySession, ih]

namespace Workspace

/-- The session is the standalone one of a workspace without an editor. -/
structure Alone (id : Nat) (w : Workspace) : Prop where
  standalone : w.standalone = some id
  editor : w.editor = none

/-! ## Queueing an edit -/

theorem changeReservation_eq (id : Nat) (p : Proposal)
    (change : SessionCore → StyleId → SessionCore) (w : Workspace) :
    ∃ sessions, w.changeReservation id p change = { w with sessions } := by
  unfold changeReservation
  cases p.reserve with
  | none => exact ⟨w.sessions, rfl⟩
  | some style => exact ⟨_, rfl⟩

theorem takeFrom_eq {batch : Batch} {w w' : Workspace} (h : w.takeFrom batch = .ok w') :
    w' = { w with engine := Agenda.queued w.engine batch } := by
  unfold takeFrom at h
  split at h
  · cases h
  · exact (Agenda.engine_take h).2

/-- An edit that is queued changes the session and the engine; nothing else. -/
theorem queueEdit_eq (id : Nat) (e : Edit) (w : Workspace) :
    ∃ sessions engine, (w.queueEdit id e).2 = { w with sessions, engine } := by
  unfold queueEdit
  cases w.sessions.get? id with
  | none => exact ⟨w.sessions, w.engine, rfl⟩
  | some s =>
      simp only
      cases s.core.propose w.engine.replica e with
      | error cause => exact ⟨w.sessions, w.engine, rfl⟩
      | ok p =>
          simp only
          split
          · exact ⟨w.sessions, w.engine, rfl⟩
          · obtain ⟨sessions, hreserve⟩ := changeReservation_eq id p .reserve w
            rw [hreserve]
            cases ht : takeFrom p.batch { w with sessions } with
            | error cause =>
                obtain ⟨released, hrelease⟩ :=
                  changeReservation_eq id p .release { w with sessions }
                exact ⟨released, w.engine, hrelease⟩
            | ok w' =>
                exact ⟨sessions, _, takeFrom_eq ht⟩

end Workspace

namespace Agenda

variable {id : Nat}

theorem alone_of_eq {w w' : Workspace} (h : w.Alone id)
    (hstandalone : w'.standalone = w.standalone) (heditor : w'.editor = w.editor) :
    w'.Alone id where
  standalone := hstandalone.trans h.standalone
  editor := heditor.trans h.editor

theorem alone_closeNow {w : Workspace} (h : w.Alone id) :
    (Workspace.reply .engine w.closeNow).2.Alone id := by
  unfold Workspace.closeNow
  cases w.engine.finishClose.1 <;> exact ⟨h.standalone, h.editor⟩

/-- No task but a command gives the workspace an editor or another session. -/
theorem alone_begin {reply : Reply} {w : Workspace} {task : Task} (h : w.Alone id)
    (hperform : ∀ c, task = .perform c → (perform reply w c).workspace.Alone id) :
    (begin reply w task).workspace.Alone id := by
  have hsame : ∀ {w' : Workspace}, w'.standalone = w.standalone → w'.editor = w.editor →
      w'.Alone id := alone_of_eq h
  cases task with
  | perform c => exact hperform c rfl
  | drain =>
      simp only [begin, drain]
      split <;> exact hsame rfl rfl
  | shut =>
      simp only [begin, shut]
      split
      · exact alone_closeNow h
      · exact hsame rfl rfl
  | hear event listener =>
      cases listener with
      | session other =>
          simp only [begin, hear, sessionHears]
          split
          · exact h
          · split <;> exact hsame rfl rfl
      | undoManager other =>
          simp only [begin, hear, inform, modification]
          split
          · split <;> exact hsame rfl rfl
          · exact h
      | metadataRelay editor => cases event <;> exact h
      | observer other => exact h
  | react other reaction =>
      simp only [begin, react]
      split
      · exact h
      · split <;> exact hsame rfl rfl
  | tell event observer =>
      simp only [begin, tell]
      split <;> exact hsame rfl rfl
  | report editor event =>
      simp only [begin, report]
      split <;> exact hsame rfl rfl
  | _ => exact hsame rfl rfl

/-! ## Commands to the session -/

/-- An edit on the agenda brings no commands, and changes only the session and the engine. -/
structure EditFrame (w : Workspace) (a : Agenda) : Prop where
  observers : a.workspace.observers = w.observers
  standalone : a.workspace.standalone = w.standalone
  editor : a.workspace.editor = w.editor
  tasks : ∀ c, ¬ .perform c ∈ a.tasks

theorem editFrame (reply : Reply) (w : Workspace) (e : Edit) :
    EditFrame w (edit reply w e) := by
  unfold edit
  split
  · rename_i place other hmeant
    split
    · obtain ⟨sessions, engine, heq⟩ := Workspace.queueEdit_eq other e
        { w with holds := (place, Access.shared) :: w.holds }
      cases hq : Workspace.queueEdit other e
          { w with holds := (place, Access.shared) :: w.holds } with
      | mk result w' =>
          rw [hq] at heq
          simp only at heq
          subst heq
          cases result with
          | error cause => exact ⟨rfl, rfl, rfl, fun _ => List.not_mem_nil⟩
          | ok made =>
              refine ⟨rfl, rfl, rfl, fun c hc => ?_⟩
              simp only [edited, followUp] at hc
              split at hc
              · split at hc <;> simp at hc
              · simp at hc
    · exact ⟨rfl, rfl, rfl, fun _ => List.not_mem_nil⟩
  · split <;> exact ⟨rfl, rfl, rfl, fun _ => List.not_mem_nil⟩
  · exact ⟨rfl, rfl, rfl, fun _ => List.not_mem_nil⟩

structure Calm (w w' : Workspace) : Prop where
  pending : w'.engine.pending = w.engine.pending
  replica : w'.engine.replica = w.engine.replica
  cores : ∀ id, (w'.sessions.get? id).map (·.core) = (w.sessions.get? id).map (·.core)
  standalone : w'.standalone = w.standalone
  editor : w'.editor = w.editor

theorem Calm.refl (w : Workspace) : Calm w w := ⟨rfl, rfl, fun _ => rfl, rfl, rfl⟩

theorem calm_holding {place : Place} {access : Access} {job : Workspace → Reply × Workspace}
    (h : ∀ w, Calm w (job w).2) (w : Workspace) : Calm w (w.holding place access job).2 := by
  unfold Workspace.holding
  split
  · obtain ⟨hpending, hreplica, hcores, hstandalone, heditor⟩ :=
      h { w with holds := (place, access) :: w.holds }
    exact ⟨hpending, hreplica, hcores, hstandalone, heditor⟩
  · exact Calm.refl w

theorem calm_withSession {access : Access} {job : Nat → Workspace → Reply × Workspace}
    (h : ∀ id w, Calm w (job id w).2) (w : Workspace) :
    Calm w (w.withSession access job).2 := by
  unfold Workspace.withSession
  split
  · exact calm_holding (h _) w
  · exact calm_holding (fun w => Calm.refl w) w
  · exact Calm.refl w

theorem calm_watchSession (signal : SessionSignal) (label : String) (actions : List Command)
    (times id : Nat) (w : Workspace) :
    Calm w (Workspace.watchSession signal label actions times id w).2 := by
  unfold Workspace.watchSession
  split
  · exact Calm.refl w
  · split
    · exact ⟨rfl, rfl, Dict.map_get?_modify (by intro s; rfl) w.sessions id, rfl, rfl⟩
    · exact Calm.refl w

theorem calm_ask (query : SessionQuery) (id : Nat) (w : Workspace) :
    Calm w (Workspace.doSession Workspace.conduct id w (.ask query)).2 := by
  unfold Workspace.doSession
  simp only
  split <;> exact Calm.refl w

/-- What a session may be asked, apart from its edits and flushes, is calm. -/
theorem calm_execute {c : Command} (hc : c.bySession = true)
    (hedit : ∀ e, c ≠ .session (.edit e)) (hflush : c ≠ .engine .flush) (w : Workspace) :
    Calm w (w.execute c).2 := by
  rw [Workspace.execute_eq_step]
  cases c with
  | engine c =>
      cases c with
      | flush => exact (hflush rfl).elim
      | setImmediate on => exact ⟨rfl, rfl, fun _ => rfl, rfl, rfl⟩
      | ask query => exact Calm.refl w
      | _ => simp [Command.bySession] at hc
  | session c =>
      cases c with
      | edit e => exact (hedit e rfl).elim
      | ask query => exact calm_withSession (fun id w => calm_ask query id w) w
      | _ => simp [Command.bySession] at hc
  | watchSession signal label actions times =>
      exact calm_withSession (calm_watchSession signal label actions times) w
  | _ => simp [Command.bySession] at hc

section Observers

variable {allowed : Command → Prop}

theorem give_withSession {access : Access} {job : Nat → Workspace → Reply × Workspace}
    (hjob : ∀ id w, ObserversGive allowed w → ObserversGive allowed (job id w).2) {w : Workspace}
    (h : ObserversGive allowed w) : ObserversGive allowed (w.withSession access job).2 := by
  unfold Workspace.withSession Workspace.holding
  split
  · split
    · exact hjob _ _ h
    · exact h
  · split <;> exact h
  · exact h

theorem give_watchSession {signal : SessionSignal} {label : String} {actions : List Command}
    (hactions : ∀ c ∈ actions, allowed c) (times id : Nat) {w : Workspace}
    (h : ObserversGive allowed w) :
    ObserversGive allowed (Workspace.watchSession signal label actions times id w).2 := by
  unfold Workspace.watchSession
  split
  · exact h
  · split
    · exact observers_addObserver h label hactions times
    · exact h

end Observers

/-- Commands to the session stay among themselves. -/
theorem within_perform_bySession {c : Command} (hc : c.bySession = true) {w : Workspace}
    (h : ObserversGive (fun c => c.bySession = true) w) (reply : Reply) :
    Within (fun c => c.bySession = true) (perform reply w c) := by
  cases c with
  | engine c =>
      cases c with
      | flush => exact within_of_observers h (fun c hc => by simp [perform] at hc) rfl
      | setImmediate on =>
          refine within_of_observers h (fun c => List.not_mem_nil) ?_
          simp only [perform, Workspace.execute_eq_step]
          rfl
      | ask query =>
          refine within_of_observers h (fun c => List.not_mem_nil) ?_
          simp only [perform, Workspace.execute_eq_step]
          rfl
      | _ => simp [Command.bySession] at hc
  | session c =>
      cases c with
      | edit e =>
          have hframe := editFrame reply w e
          exact within_of_observers h hframe.tasks hframe.observers
      | ask query =>
          refine ⟨fun c hc => (List.not_mem_nil hc).elim, ?_⟩
          simp only [perform, Workspace.execute_eq_step]
          refine give_withSession (fun other w h => ?_) h
          unfold Workspace.doSession
          simp only
          split <;> exact h
      | _ => simp [Command.bySession] at hc
  | watchSession signal label actions times =>
      have hactions : ∀ c ∈ actions, c.bySession = true :=
        Command.allBySession_iff.1 (by simpa [Command.bySession] using hc)
      refine ⟨fun c hc => (List.not_mem_nil hc).elim, ?_⟩
      simp only [perform, Workspace.execute_eq_step]
      exact give_withSession (give_watchSession hactions times) h
  | _ => simp [Command.bySession] at hc

theorem alone_perform {c : Command} (hc : c.bySession = true) {w : Workspace} (h : w.Alone id)
    (reply : Reply) : (perform reply w c).workspace.Alone id := by
  by_cases hedit : ∃ e, c = .session (.edit e)
  · obtain ⟨e, rfl⟩ := hedit
    have hframe := editFrame reply w e
    exact alone_of_eq h hframe.standalone hframe.editor
  · by_cases hflush : c = .engine .flush
    · subst hflush
      exact h
    · have hcalm := calm_execute hc (fun e he => hedit ⟨e, he⟩) hflush w
      have hw : (w.execute c).2.Alone id := alone_of_eq h hcalm.standalone hcalm.editor
      cases c with
      | engine c =>
          cases c with
          | flush => exact h
          | setImmediate | ask => exact hw
          | _ => simp [Command.bySession] at hc
      | session c =>
          cases c with
          | edit e => exact (hedit ⟨e, rfl⟩).elim
          | ask => exact hw
          | _ => simp [Command.bySession] at hc
      | watchSession => exact hw
      | _ => simp [Command.bySession] at hc

structure BySession (id : Nat) (a : Agenda) : Prop where
  within : Within (fun c => c.bySession = true) a
  alone : a.workspace.Alone id

theorem bySession_next {a : Agenda} (h : BySession id a) : BySession id a.next where
  within := within_next h.within fun _ reply _ hc hobservers =>
    within_perform_bySession hc hobservers reply
  alone := by
    unfold next
    cases ht : a.tasks with
    | nil => exact h.alone
    | cons task rest =>
        exact alone_begin h.alone fun c hc =>
          alone_perform (h.within.commands c (by simp [ht, hc])) h.alone a.reply

theorem bySession_after {a : Agenda} (h : BySession id a) (n : Nat) :
    BySession id (a.after n) := by
  induction n generalizing a with
  | zero => exact h
  | succ n ih => exact ih (bySession_next h)

end Agenda

end Coedit
