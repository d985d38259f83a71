import Coedit.Proofs.Session.Alone
import Coedit.Proofs.Session.Proposals

/-!
# Reserved style identifiers

A session reserves the identifier of a style that it clones until the engine reports the
style. Three things change at three moments: the reservation when the style is cloned and when
its creation or deletion is reported, the queue when batches are accepted and applied, and the
document when they are applied. A report is delivered after the whole batch was applied, and
whoever hears an earlier event of the batch may clone in between. If the clone then takes an
identifier whose deletion is still to be reported, the report releases the new reservation
together with the old one. This is the only way in which a reservation is lost while its style
is waiting in the queue.
-/

namespace Coedit

namespace Workspace

def waitingStyles (w : Workspace) : List StyleId := w.engine.pending.flatMap Batch.addedStyles

def reservedStyles (id : Nat) (w : Workspace) : List StyleId :=
  ((w.sessions.get? id).map (·.core.reserved)).getD []

/-! ## Reservations -/

theorem reservedStyles_of_get? {id : Nat} {w : Workspace} {s : Session}
    (h : w.sessions.get? id = some s) : w.reservedStyles id = s.core.reserved := by
  unfold reservedStyles
  rw [h]
  rfl

theorem reservedStyles_modifySession {other : Nat} {f : Session → Session}
    (h : ∀ s, (f s).core.reserved = s.core.reserved) (id : Nat) (w : Workspace) :
    (w.modifySession other f).reservedStyles id = w.reservedStyles id := by
  unfold reservedStyles
  exact congrArg (Option.getD · []) (Dict.map_get?_modify h w.sessions other id)

theorem reservedStyles_beginReaction (other id : Nat) (w : Workspace) :
    (w.beginReaction other).reservedStyles id = w.reservedStyles id :=
  reservedStyles_modifySession (by intro s; rfl) id w

theorem reservedStyles_endReaction (other id : Nat) (w : Workspace) :
    (w.endReaction other).reservedStyles id = w.reservedStyles id :=
  reservedStyles_modifySession (by intro s; rfl) id w

theorem reserved_react (s : SessionCore) (r : Replica) (reaction : Reaction) :
    (s.react r reaction).1.reserved = match reaction with
      | .release style => s.reserved.filter (· ≠ style)
      | _ => s.reserved := by
  cases reaction with
  | followCursor =>
      simp only [SessionCore.react]
      split <;> rfl
  | recheck =>
      simp only [SessionCore.react]
      split <;> rfl
  | _ => rfl

theorem mem_reserved_reserve {s : SessionCore} {style other : StyleId}
    (h : other = style ∨ other ∈ s.reserved) : other ∈ (s.reserve style).reserved := by
  unfold SessionCore.reserve
  split
  · rename_i hmem
    rcases h with rfl | h
    · exact hmem
    · exact h
  · exact List.mem_cons.2 h

/-- Taking a reservation back leaves those that were there before. -/
theorem mem_reserved_release_reserve {s : SessionCore} {style other : StyleId}
    (hstyle : style ∉ s.reserved) (h : other ∈ s.reserved) :
    other ∈ ((s.reserve style).release style).reserved := by
  simp only [SessionCore.release, List.mem_filter, decide_eq_true_eq]
  refine ⟨mem_reserved_reserve (.inr h), ?_⟩
  rintro rfl
  exact hstyle h

end Workspace

/-! ## Releases that are due -/

namespace Task

/-- The style whose reservation the task will make a session release. -/
def released? (id : Nat) : Task → Option StyleId
  | publish event => event.style?
  | hear event (.session other) => if other = id then event.style? else none
  | react other (.release style) => if other = id then some style else none
  | _ => none

end Task

namespace Agenda

/-- The styles that a session will release before the queue is applied again. -/
def due (id : Nat) : List Task → List StyleId
  | [] => []
  | .drain :: _ | .shut :: _ => []
  | task :: rest => (task.released? id).toList ++ due id rest

section Due

variable {id : Nat} {style : StyleId}

theorem due_cons {task : Task} (h : task.delivers = true) (rest : List Task) :
    due id (task :: rest) = (task.released? id).toList ++ due id rest := by
  cases task with
  | drain | shut | perform => exact Bool.noConfusion h
  | _ => rfl

theorem mem_due_append {first second : List Task} (h : style ∈ due id (first ++ second)) :
    (∃ task ∈ first, task.released? id = some style) ∨ style ∈ due id second := by
  induction first with
  | nil => exact .inr h
  | cons task rest ih =>
      by_cases hd : task.delivers = true
      · rw [List.cons_append, due_cons hd, List.mem_append] at h
        rcases h with h | h
        · exact .inl ⟨task, List.mem_cons_self, by simpa using h⟩
        · rcases ih h with ⟨other, hmem, hother⟩ | h
          · exact .inl ⟨other, List.mem_cons_of_mem _ hmem, hother⟩
          · exact .inr h
      · cases task with
        | drain | shut => cases h
        | perform c =>
            rcases ih h with ⟨other, hmem, hother⟩ | h
            · exact .inl ⟨other, List.mem_cons_of_mem _ hmem, hother⟩
            · exact .inr h
        | _ => exact (hd rfl).elim

/-- Releasing a style is one step of the reaction to an event about it. -/
theorem release_of_reactions {s : SessionCore} {r : Replica} {event : EngineEvent}
    (h : .release style ∈ s.reactions r event) : event.style? = some style := by
  cases event with
  | styleCreated other =>
      simp only [SessionCore.reactions, List.mem_cons, Reaction.release.injEq, reduceCtorEq,
        List.not_mem_nil, or_false] at h
      rw [h]
      rfl
  | styleDeleted other =>
      simp only [SessionCore.reactions, List.mem_cons, Reaction.release.injEq, reduceCtorEq,
        List.not_mem_nil, or_false] at h
      rw [h]
      rfl
  | paragraphChanged =>
      simp only [SessionCore.reactions] at h
      split at h <;> simp at h
  | memberRemoved | cursorAdded | cursorMoved | cursorRemoved =>
      simp only [SessionCore.reactions, SessionCore.ifLocal] at h
      split at h <;> simp at h
  | _ => simp [SessionCore.reactions] at h

theorem released?_sessionHears {reply : Reply} {w : Workspace} {event : EngineEvent}
    {other : Nat} {task : Task} (hmem : task ∈ (sessionHears reply w event other).tasks)
    (h : task.released? id = some style) :
    (Task.hear event (.session other)).released? id = some style := by
  unfold sessionHears at hmem
  cases hs : w.sessions.get? other with
  | none => simp [hs] at hmem
  | some s =>
      simp only [hs] at hmem
      split at hmem
      · simp only [List.mem_append, List.mem_map, List.mem_singleton] at hmem
        rcases hmem with ⟨reaction, hreaction, rfl⟩ | rfl
        · cases reaction with
          | release found =>
              simp only [Task.released?] at h ⊢
              split at h
              · rename_i hid
                obtain rfl := Option.some.inj h
                rw [if_pos hid]
                exact release_of_reactions hreaction
              · cases h
          | _ => cases h
        · cases h
      · cases hmem

theorem released?_inform {reply : Reply} {w : Workspace} {other : Nat} {task : Task}
    (hmem : task ∈ (inform reply w other).tasks) : task.released? id = none := by
  unfold inform modification at hmem
  split at hmem
  · cases hm : w.undoManagers.get? other with
    | none =>
        simp only [hm, List.nil_append, List.mem_singleton] at hmem
        rw [hmem]
        rfl
    | some m =>
        simp only [hm, List.mem_append, List.mem_singleton] at hmem
        rcases hmem with hmem | rfl
        · split at hmem
          · obtain ⟨editor, -, rfl⟩ := List.mem_map.1 hmem
            rfl
          · cases hmem
        · rfl
  · cases hmem

theorem released?_announcement {w : Workspace} {other : Nat} {event : SessionEvent}
    {task : Task} (hmem : task ∈ announcement w other event) : task.released? id = none := by
  unfold announcement at hmem
  split at hmem
  · cases hmem
  · obtain ⟨observer, -, rfl⟩ := List.mem_map.1 hmem
    rfl

theorem released?_commands {label : String} {actions : List Command} {task : Task}
    (hmem : task ∈ commands label actions) : task.released? id = none := by
  simp only [commands, List.mem_flatMap, List.mem_cons, List.not_mem_nil, or_false] at hmem
  obtain ⟨c, -, rfl | rfl⟩ := hmem <;> rfl

theorem released?_hear {reply : Reply} {w : Workspace} {event : EngineEvent}
    {listener : EngineListener} {task : Task} (hmem : task ∈ (hear reply w event listener).tasks)
    (h : task.released? id = some style) : (Task.hear event listener).released? id = some style := by
  cases listener with
  | session other => exact released?_sessionHears hmem h
  | undoManager other =>
      rw [released?_inform hmem] at h
      cases h
  | metadataRelay editor =>
      cases event with
      | metadataChanged set removed =>
          obtain rfl := List.mem_singleton.1 hmem
          cases h
      | _ => cases hmem
  | observer other =>
      obtain rfl := List.mem_singleton.1 hmem
      cases h

/-- Delivering events brings no releases but those that were due. -/
theorem released?_begin {reply : Reply} {w : Workspace} {task part : Task}
    (hd : task.delivers = true) (hmem : part ∈ (begin reply w task).tasks)
    (h : part.released? id = some style) : task.released? id = some style := by
  cases task with
  | perform | drain | shut => exact Bool.noConfusion hd
  | publish event =>
      obtain ⟨listener, -, rfl⟩ := List.mem_map.1 hmem
      cases listener with
      | session other =>
          simp only [Task.released?] at h ⊢
          split at h
          · exact h
          · cases h
      | _ => cases h
  | hear event listener => exact released?_hear hmem h
  | react other reaction =>
      simp only [begin, react] at hmem
      split at hmem
      · cases hmem
      · split at hmem
        · rw [released?_announcement hmem] at h
          cases h
        · cases hmem
  | tell event observer =>
      simp only [begin, tell] at hmem
      split at hmem
      · cases hmem
      · rcases List.mem_append.1 hmem with hmem | hmem
        · rw [released?_commands hmem] at h
          cases h
        · obtain rfl := List.mem_singleton.1 hmem
          cases h
  | report editor event =>
      simp only [begin, report] at hmem
      split at hmem
      · cases hmem
      · rcases List.mem_append.1 hmem with hmem | hmem
        · obtain ⟨observer, -, rfl⟩ := List.mem_map.1 hmem
          cases h
        · obtain rfl := List.mem_singleton.1 hmem
          cases h
  | _ => cases hmem

theorem reserved_react {reply : Reply} {w : Workspace} {other : Nat} {reaction : Reaction}
    (hmem : style ∈ w.reservedStyles id)
    (h : (Task.react other reaction).released? id ≠ some style) :
    style ∈ (react reply w other reaction).workspace.reservedStyles id := by
  unfold react
  cases hs : w.sessions.get? other with
  | none => exact hmem
  | some s =>
      have hkept : style ∈ (w.modifySession other fun old =>
          { old with core := (s.core.react w.engine.replica reaction).1 }).reservedStyles id := by
        unfold Workspace.reservedStyles Workspace.modifySession
        simp only [Dict.get?_modify]
        split
        · rename_i hid
          subst hid
          rw [Workspace.reservedStyles_of_get? hs] at hmem
          simp only [hs, Option.map_some, Option.getD_some, Workspace.reserved_react]
          cases reaction with
          | release found =>
              have hne : style ≠ found := by
                rintro rfl
                exact h (by simp [Task.released?])
              exact List.mem_filter.2 ⟨hmem, by simpa using hne⟩
          | _ => exact hmem
        · exact hmem
      simp only
      split <;> exact hkept

/-- Delivering events keeps all reservations but those that it releases. -/
theorem reserved_begin {reply : Reply} {w : Workspace} {task : Task}
    (hd : task.delivers = true) (hmem : style ∈ w.reservedStyles id)
    (h : task.released? id ≠ some style) :
    style ∈ (begin reply w task).workspace.reservedStyles id := by
  cases task with
  | perform | drain | shut => exact Bool.noConfusion hd
  | hear event listener =>
      cases listener with
      | session other =>
          simp only [begin, hear, sessionHears]
          split
          · exact hmem
          · split
            · rw [Workspace.reservedStyles_beginReaction]
              exact hmem
            · exact hmem
      | undoManager other =>
          simp only [begin, hear, inform, modification]
          split
          · split <;> exact hmem
          · exact hmem
      | metadataRelay editor => cases event <;> exact hmem
      | observer other => exact hmem
  | react other reaction => exact reserved_react hmem h
  | settle other =>
      show style ∈ (w.endReaction other).reservedStyles id
      rw [Workspace.reservedStyles_endReaction]
      exact hmem
  | tell event observer =>
      simp only [begin, tell]
      split <;> exact hmem
  | report editor event =>
      simp only [begin, report]
      split <;> exact hmem
  | _ => exact hmem

end Due

end Agenda

/-! ## Queueing an edit -/

namespace Workspace

theorem get?_changeReservation {id : Nat} {w : Workspace} {s : Session}
    (h : w.sessions.get? id = some s) (p : Proposal)
    (change : SessionCore → StyleId → SessionCore) :
    (w.changeReservation id p change).sessions.get? id =
      some { s with core := (p.reserve.map (change s.core)).getD s.core } := by
  unfold changeReservation
  cases p.reserve with
  | none => exact h
  | some style => simp [modifySession, Dict.get?_modify, h]

/-- The ways in which queueing an edit ends: its batch is queued, with what it reserves, or
neither the queue nor an older reservation changes. -/
inductive Queueing (id : Nat) (e : Edit) (w : Workspace) :
    Except SessionError (EditAnswer × Bool) → Workspace → Prop where
  | queued (s : Session) (p : Proposal) (w' : Workspace) (hs : w.sessions.get? id = some s)
      (hp : s.core.propose w.engine.replica e = .ok p)
      (engine : w'.engine = Agenda.queued w.engine p.batch)
      (kept : ∀ style ∈ w.reservedStyles id, style ∈ w'.reservedStyles id)
      (reserved : ∀ style, p.reserve = some style → style ∈ w'.reservedStyles id) :
      Queueing id e w (.ok (p.answer, true)) w'
  | kept (result : Except SessionError (EditAnswer × Bool)) (w' : Workspace)
      (answer : ∀ answer flag, result = .ok (answer, flag) →
        flag = false ∧ ∀ style, answer ≠ .created style)
      (engine : w'.engine = w.engine)
      (kept : ∀ style ∈ w.reservedStyles id, style ∈ w'.reservedStyles id) :
      Queueing id e w result w'

theorem engine_changeReservation (id : Nat) (p : Proposal)
    (change : SessionCore → StyleId → SessionCore) (w : Workspace) :
    (w.changeReservation id p change).engine = w.engine := by
  obtain ⟨sessions, heq⟩ := changeReservation_eq id p change w
  rw [heq]

/-- A proposal that is not about an old reservation leaves the old ones, when its own is taken
back as well. -/
theorem mem_reserved_taken_back {s : SessionCore} {r : Replica} {e : Edit} {p : Proposal}
    (hp : s.propose r e = .ok p) {style : StyleId} (h : style ∈ s.reserved) :
    let reserved := (p.reserve.map s.reserve).getD s
    style ∈ ((p.reserve.map reserved.release).getD reserved).reserved := by
  rcases SessionCore.propose_cases hp with ⟨-, -, -, added, hadds⟩ | hnone
  · rw [hadds.reserve]
    exact mem_reserved_release_reserve hadds.unreserved h
  · rw [hnone.reserve]
    exact h

theorem queueing_proposal {id : Nat} {e : Edit} {w : Workspace} {s : Session} {p : Proposal}
    (hs : w.sessions.get? id = some s) (hp : s.core.propose w.engine.replica e = .ok p) :
    Queueing id e w
      (match (w.changeReservation id p .reserve).takeFrom p.batch with
        | .ok w => ((.ok (p.answer, true) : Except SessionError (EditAnswer × Bool)), w)
        | .error cause => (.error (.engine cause),
          (w.changeReservation id p .reserve).changeReservation id p .release)).1
      (match (w.changeReservation id p .reserve).takeFrom p.batch with
        | .ok w => ((.ok (p.answer, true) : Except SessionError (EditAnswer × Bool)), w)
        | .error cause => (.error (.engine cause),
          (w.changeReservation id p .reserve).changeReservation id p .release)).2 := by
  have hreserved := get?_changeReservation hs p .reserve
  cases ht : (w.changeReservation id p .reserve).takeFrom p.batch with
  | ok w' =>
      have htake := takeFrom_eq ht
      rw [engine_changeReservation] at htake
      have hstyles : w'.reservedStyles id =
          ((p.reserve.map s.core.reserve).getD s.core).reserved := by
        rw [htake]
        exact reservedStyles_of_get? hreserved
      refine .queued s p w' hs hp (by rw [htake]) ?_ ?_
      · intro style hmem
        rw [reservedStyles_of_get? hs] at hmem
        rw [hstyles]
        cases p.reserve with
        | none => exact hmem
        | some other => exact mem_reserved_reserve (.inr hmem)
      · intro style hreserve
        rw [hstyles, hreserve]
        exact mem_reserved_reserve (.inl rfl)
  | error cause =>
      refine .kept _ _ (fun _ _ h => by cases h) ?_ ?_
      · simp only [engine_changeReservation]
      · intro style hmem
        rw [reservedStyles_of_get? hs] at hmem
        have hreleased := get?_changeReservation hreserved p .release
        rw [reservedStyles_of_get? hreleased]
        exact mem_reserved_taken_back hp hmem

theorem queueEdit_cases (id : Nat) (e : Edit) (w : Workspace) :
    Queueing id e w (w.queueEdit id e).1 (w.queueEdit id e).2 := by
  unfold queueEdit
  cases hs : w.sessions.get? id with
  | none =>
      refine .kept _ w ?_ rfl fun _ h => h
      intro answer flag h
      cases h
      exact ⟨rfl, fun _ h => by cases h⟩
  | some s =>
      simp only
      cases hp : s.core.propose w.engine.replica e with
      | error cause => exact .kept _ w (fun _ _ h => by cases h) rfl fun _ h => h
      | ok p =>
          simp only
          split
          · rename_i hempty
            refine .kept _ w ?_ rfl fun _ h => h
            intro answer flag h
            cases h
            refine ⟨rfl, ?_⟩
            rcases SessionCore.propose_cases hp with ⟨-, -, -, style, hadds⟩ | hnone
            · obtain ⟨definition, hbatch⟩ := hadds.batch
              rw [hbatch] at hempty
              cases hempty
            · exact hnone.answer
          · exact queueing_proposal hs hp

end Workspace

namespace Agenda

/-! ## An edit on the agenda -/

/-- How an edit is begun: its batch is queued and, if the engine applies batches at once, the
queue is applied next; or neither the queue nor an older reservation changes. -/
inductive Editing (id : Nat) (e : Edit) (w : Workspace) (a : Agenda) : Prop where
  | queued (s : Session) (p : Proposal) (hs : w.sessions.get? id = some s)
      (hp : s.core.propose w.engine.replica e = .ok p)
      (engine : a.workspace.engine = queued w.engine p.batch)
      (kept : ∀ style ∈ w.reservedStyles id, style ∈ a.workspace.reservedStyles id)
      (reserved : ∀ style, p.reserve = some style → style ∈ a.workspace.reservedStyles id)
      (tasks : a.tasks = (if w.engine.immediate then [.drain] else []) ++
        [.answer (.edited p.answer), .holding w.holds])
  | kept
      (engine : a.workspace.engine = w.engine)
      (kept : ∀ style ∈ w.reservedStyles id, style ∈ a.workspace.reservedStyles id)
      (tasks : ∀ task ∈ a.tasks, task.released? id = none)
      (answer : ∀ style, a.finish.1 ≠ .edited (.created style))

theorem editing_of_queueing {id : Nat} {e : Edit} {w : Workspace} {reply : Reply}
    {holds : List (Place × Access)} {result : Except SessionError (EditAnswer × Bool)}
    {w' : Workspace} (h : Workspace.Queueing id e { w with holds } result w') :
    Editing id e w (edited reply w.holds (result, w')) := by
  cases h with
  | queued s p w' hs hp engine kept reserved =>
      refine .queued s p hs hp engine kept reserved ?_
      simp only [edited, if_true, followUp, engine]
      rfl
  | kept result w' answer engine kept =>
      cases result with
      | error cause =>
          exact .kept engine kept (fun _ h => by cases h) fun _ h => by cases h
      | ok made =>
          obtain ⟨made, flag⟩ := made
          obtain ⟨rfl, hanswer⟩ := answer made flag rfl
          refine .kept engine kept ?_ ?_
          · intro task hmem
            simp only [edited, Bool.false_eq_true, if_false, List.nil_append, List.mem_cons,
              List.not_mem_nil, or_false] at hmem
            rcases hmem with rfl | rfl <;> rfl
          · intro style hfinish
            have hmade : Reply.edited made = .edited (.created style) := hfinish
            cases hmade
            exact hanswer style rfl

theorem editing {id : Nat} {w : Workspace} (h : w.Alone id) (reply : Reply) (e : Edit) :
    Editing id e w (edit reply w e) := by
  have hmeant : w.meantSession = some (.standalone, some id) := by
    unfold Workspace.meantSession
    rw [h.editor, h.standalone]
  unfold edit
  rw [hmeant]
  simp only
  split
  · have hqueue := Workspace.queueEdit_cases id e
      { w with holds := (Place.standalone, Access.shared) :: w.holds }
    exact editing_of_queueing hqueue
  · exact .kept rfl (fun _ h => h) (fun _ h => by cases h) fun _ h => by cases h

def cloned? (a : Agenda) : Option StyleId :=
  match a.tasks with
  | .perform (.session (.edit (.cloneStyle source displayName))) :: _ =>
    match (a.workspace.execute (.session (.edit (.cloneStyle source displayName)))).1 with
    | .edited (.created style) => some style
    | _ => none
  | _ => none

theorem perform_of_cloned {a : Agenda} {style : StyleId} (h : a.cloned? = some style) :
    ∃ e rest, a.tasks = .perform (.session (.edit e)) :: rest ∧
      (edit a.reply a.workspace e).finish.1 = .edited (.created style) := by
  unfold cloned? at h
  split at h
  · rename_i source displayName rest htasks
    refine ⟨_, rest, htasks, ?_⟩
    rw [finish_edit]
    split at h
    · rename_i found hreply
      obtain rfl := Option.some.inj h
      exact hreply
    · cases h
  · cases h

/-- A clone queues the creation of one style, under an identifier that was not reserved and
that the document does not have. -/
structure Cloning (id : Nat) (style : StyleId) (w : Workspace) (a : Agenda) : Prop where
  batch : ∃ member definition, a.workspace.engine =
    queued w.engine [.addStyle member style .paragraph definition]
  unreserved : style ∉ w.reservedStyles id
  absent : w.engine.document.styles.contains style = false
  kept : ∀ other ∈ w.reservedStyles id, other ∈ a.workspace.reservedStyles id
  reserved : style ∈ a.workspace.reservedStyles id
  tasks : a.tasks = (if w.engine.immediate then [.drain] else []) ++
    [.answer (.edited (.created style)), .holding w.holds]

theorem cloning {id : Nat} {a : Agenda} {style : StyleId} (h : a.workspace.Alone id)
    (hcloned : a.cloned? = some style) :
    ∃ e rest, a.tasks = .perform (.session (.edit e)) :: rest ∧
      Cloning id style a.workspace (edit a.reply a.workspace e) := by
  obtain ⟨e, rest, htasks, hfinish⟩ := perform_of_cloned hcloned
  refine ⟨e, rest, htasks, ?_⟩
  cases editing h a.reply e with
  | kept engine kept tasks answer => exact (answer style hfinish).elim
  | queued s p hs hp engine kept reserved tasks =>
      have hanswer : p.answer = .created style := by
        unfold finish at hfinish
        rw [tasks, outcomes_append] at hfinish
        have hmade : Reply.edited p.answer = .edited (.created style) := hfinish
        exact Reply.edited.inj hmade
      rcases SessionCore.propose_cases hp with ⟨-, -, -, added, hadds⟩ | hnone
      · have hsame : added = style := by
          have := hadds.answer.symm.trans hanswer
          cases this
          rfl
        subst hsame
        obtain ⟨definition, hbatch⟩ := hadds.batch
        refine ⟨⟨s.core.member, definition, by rw [engine, hbatch]⟩, ?_, hadds.absent, kept,
          reserved added hadds.reserve, by rw [tasks, hanswer]⟩
        rw [Workspace.reservedStyles_of_get? hs]
        exact hadds.unreserved
      · exact (hnone.answer style hanswer).elim

end Agenda

end Coedit
