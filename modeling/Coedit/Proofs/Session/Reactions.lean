import Coedit.Proofs.Workspace.Agenda
import Coedit.Proofs.Workspace.Indifference

/-!
# Reactions under way

A session that hears of an event reacts, and whoever watches it is told, before its reaction ends.
So what an agenda has to do on behalf of a session is followed by the end of a reaction of it. Here
this is shown to last from one moment to the next, together with the remnants of other sessions: no
step takes them up again.
-/

namespace Coedit

def Task.settles (id : Nat) : Task → Bool
  | .settle other => other == id
  | _ => false

/-- Whether the undo manager is among those that are being informed still when the task is done. -/
def Task.informs (id : Nat) : Task → Bool
  | .informed managers => managers.contains id
  | _ => false

/-- The task is about no remnant, and if it is part of a reaction then the end of that is among what
is left to do after it. Here `watched` tells which sessions an observer watches at some time. -/
def Task.Apt (σ : Remnants) (watched : Nat → Nat → Prop) (rest : List Task) : Task → Prop
  | .react id _ => .settle id ∈ rest
  | .settle id => σ.ended id = false
  | .tell (.session _) observer => ∀ id, watched observer id → .settle id ∈ rest
  | .informed managers => ∀ id ∈ managers, σ.spare id = false
  | _ => True

def Task.Aside (σ : Remnants) : Task → Prop
  | .react _ _ | .settle _ | .tell (.session _) _ => False
  | .informed managers => ∀ id ∈ managers, σ.spare id = false
  | _ => True

namespace Agenda

open Workspace

def Apt (σ : Remnants) (watched : Nat → Nat → Prop) : List Task → Prop
  | [] => True
  | task :: rest => task.Apt σ watched rest ∧ Apt σ watched rest

def owed (tasks : List Task) (id : Nat) : Nat := tasks.countP (Task.settles id)

structure Unhaunted (σ : Remnants) (watched : Nat → Nat → Prop) (a : Agenda) : Prop where
  counterpart : ∃ v, Counterpart σ (owed a.tasks) a.workspace v
  apt : Apt σ watched a.tasks

/-! ## Tasks -/

section Tasks

variable {σ : Remnants} {watched : Nat → Nat → Prop} {rest rest' parts : List Task} {task : Task}
  {id : Nat}

theorem settles_iff : task.settles id = true ↔ task = .settle id := by
  cases task <;> simp [Task.settles]

theorem owed_eq_zero : owed rest id = 0 ↔ .settle id ∉ rest := by
  unfold owed
  rw [List.countP_eq_zero]
  constructor
  · exact fun h hmem => h _ hmem (settles_iff.2 rfl)
  · rintro h task hmem hsettles
    obtain rfl := settles_iff.1 hsettles
    exact h hmem

theorem owed_cons (h : ∀ id, task.settles id = false) : owed (task :: rest) = owed rest := by
  funext id
  exact List.countP_cons_of_neg (by rw [h id]; exact Bool.false_ne_true)

theorem owed_append (h : ∀ part ∈ parts, ∀ id, part.settles id = false) :
    owed (parts ++ rest) = owed rest := by
  induction parts with
  | nil => rfl
  | cons part parts ih =>
      rw [List.cons_append, owed_cons (h part List.mem_cons_self)]
      exact ih fun part hmem => h part (List.mem_cons_of_mem _ hmem)

theorem aptTask_mono (h : task.Apt σ watched rest)
    (hrest : ∀ id, .settle id ∈ rest → .settle id ∈ rest') : task.Apt σ watched rest' := by
  cases task with
  | react id reaction => exact hrest id h
  | tell event observer =>
      cases event with
      | session event => exact fun id hid => hrest id (h id hid)
      | _ => trivial
  | _ => exact h

theorem aptTask_of_aside (h : task.Aside σ) : task.Apt σ watched rest := by
  cases task with
  | tell event observer =>
      cases event with
      | session event => exact h.elim
      | _ => trivial
  | react | settle => exact h.elim
  | _ => exact h

theorem settles_of_aside (h : task.Aside σ) (id : Nat) : task.settles id = false := by
  cases task with
  | settle => exact h.elim
  | _ => rfl

theorem apt_append (hparts : ∀ part ∈ parts, part.Apt σ watched rest) (hrest : Apt σ watched rest) :
    Apt σ watched (parts ++ rest) := by
  induction parts with
  | nil => exact hrest
  | cons part parts ih =>
      exact ⟨aptTask_mono (hparts part List.mem_cons_self) fun id hmem =>
          List.mem_append_right parts hmem,
        ih fun part hmem => hparts part (List.mem_cons_of_mem _ hmem)⟩

theorem not_ended_of_settle (h : Apt σ watched rest) (hmem : .settle id ∈ rest) :
    σ.ended id = false := by
  induction rest with
  | nil => cases hmem
  | cons task rest ih =>
      rcases List.mem_cons.1 hmem with rfl | hmem
      · exact h.1
      · exact ih h.2 hmem

end Tasks

/-! ## What one step does -/

section Step

variable {σ : Remnants} {watched : Nat → Nat → Prop} {w v : Workspace} {reply : Reply}
  {rest : List Task} {b : Agenda}

/-- The parts of a task end no reaction. -/
theorem unhaunted_parts (h : Counterpart σ (owed rest) b.workspace v) (hrest : Apt σ watched rest)
    (hparts : ∀ part ∈ b.tasks, (∀ id, part.settles id = false) ∧ part.Apt σ watched rest) :
    Unhaunted σ watched (b.before rest) := by
  refine ⟨⟨v, ?_⟩, apt_append (fun part hpart => (hparts part hpart).2) hrest⟩
  show Counterpart σ (owed (b.tasks ++ rest)) b.workspace v
  rw [owed_append fun part hpart => (hparts part hpart).1]
  exact h

/-- The parts of a task belong to no reaction. -/
theorem unhaunted_aside (h : Counterpart σ (owed rest) b.workspace v) (hrest : Apt σ watched rest)
    (hparts : ∀ part ∈ b.tasks, part.Aside σ) : Unhaunted σ watched (b.before rest) :=
  unhaunted_parts h hrest fun part hpart =>
    ⟨settles_of_aside (hparts part hpart), aptTask_of_aside (hparts part hpart)⟩

theorem unhaunted_done (h : Counterpart σ (owed rest) w v) (hrest : Apt σ watched rest) :
    Unhaunted σ watched (Agenda.before ⟨[], reply, w⟩ rest) := ⟨⟨v, h⟩, hrest⟩

theorem aside_followUp {part : Task} (h : part ∈ followUp w) : part.Aside σ := by
  unfold followUp at h
  split at h
  · obtain rfl := List.mem_singleton.1 h
    trivial
  · cases h

theorem unhaunted_enqueue (h : Counterpart σ (owed rest) w v) (hrest : Apt σ watched rest)
    (batch : Batch) : Unhaunted σ watched ((enqueue reply w batch).before rest) := by
  unfold enqueue
  obtain ⟨cause, hw, -⟩ | ⟨w', v', hw, -, htaken⟩ := h.take batch
  · rw [hw]
    exact unhaunted_done h hrest
  · rw [hw]
    refine unhaunted_aside htaken hrest fun part hpart => ?_
    rcases List.mem_append.1 hpart with hfollow | hlast
    · exact aside_followUp hfollow
    · obtain rfl := List.mem_singleton.1 hlast
      trivial

/-- What is left of an edit that somebody's session was asked for. -/
theorem unhaunted_edited {holds : List (Place × Access)}
    {r r' : Except SessionError (EditAnswer × Bool) × Workspace}
    (h : Concur σ (owed rest) r r') (hrest : Apt σ watched rest) :
    Unhaunted σ watched ((edited reply holds r).before rest) := by
  cases h with
  | intro answer hdone =>
      cases answer with
      | error cause => exact unhaunted_done (hdone.withHolds holds) hrest
      | ok answered =>
          obtain ⟨answer, queued⟩ := answered
          refine unhaunted_aside hdone hrest fun part hpart => ?_
          rcases List.mem_append.1 hpart with hfollow | hlast
          · split at hfollow
            · exact aside_followUp hfollow
            · cases hfollow
          · simp only [List.mem_cons, List.not_mem_nil, or_false] at hlast
            rcases hlast with rfl | rfl <;> trivial

theorem unhaunted_edit (h : Counterpart σ (owed rest) w v) (hrest : Apt σ watched rest) (e : Edit) :
    Unhaunted σ watched ((edit reply w e).before rest) := by
  unfold edit
  split
  · rename_i place id hmeant
    split
    · have hid := not_ended_of_owns h.proper (owns_of_meantSession hmeant)
      exact unhaunted_edited ((h.withHolds ((place, .shared) :: w.holds)).queueEdit hid e) hrest
    · exact unhaunted_done h hrest
  · split <;> exact unhaunted_done h hrest
  · exact unhaunted_done h hrest

theorem unhaunted_perform (h : Counterpart σ (owed rest) w v) (hrest : Apt σ watched rest)
    (c : Command) : Unhaunted σ watched ((perform reply w c).before rest) := by
  have hdone : Unhaunted σ watched (Agenda.before ⟨[], (w.execute c).1, (w.execute c).2⟩ rest) :=
    unhaunted_done (indifferent_conduct c h).after hrest
  cases c with
  | engine c =>
      cases c with
      | enqueue batch => exact unhaunted_enqueue h hrest batch
      | flush =>
          refine unhaunted_aside h hrest fun part hpart => ?_
          simp only [perform, List.mem_cons, List.not_mem_nil, or_false] at hpart
          rcases hpart with rfl | rfl <;> trivial
      | close =>
          simp only [perform, close]
          split
          · refine unhaunted_aside h hrest fun part hpart => ?_
            obtain rfl := List.mem_singleton.1 hpart
            trivial
          · exact unhaunted_done h hrest
      | _ => exact hdone
  | session c =>
      cases c with
      | edit e => exact unhaunted_edit h hrest e
      | _ => exact hdone
  | _ => exact hdone

/-- The next batch is applied, and its events are to be published before `task` goes on. -/
theorem unhaunted_applied (h : Counterpart σ (owed rest) w v) (hrest : Apt σ watched rest)
    {events : List EngineEvent} {engine : Engine EngineListener}
    (hnext : w.engine.applyNext? = some (events, engine)) (task : Task) (htask : task.Aside σ) :
    Unhaunted σ watched
      (Agenda.before ⟨events.map .publish ++ [task], reply, { w with engine }⟩ rest) := by
  obtain ⟨-, hnone⟩ | ⟨batch, pending, -, hsome⟩ := Engine.applyNext?_cases w.engine
  · rw [hnone] at hnext
    cases hnext
  · rw [hsome] at hnext
    obtain ⟨-, rfl⟩ := Prod.mk.inj (Option.some.inj hnext)
    have happlied := h.withEngine
      (f := fun e => { e with replica := (w.engine.replica.applyBatch batch).1, pending })
      (fun _ _ => rfl) fun _ => rfl
    refine unhaunted_aside happlied hrest fun part hpart => ?_
    rcases List.mem_append.1 hpart with hpublish | hlast
    · obtain ⟨event, -, rfl⟩ := List.mem_map.1 hpublish
      trivial
    · obtain rfl := List.mem_singleton.1 hlast
      exact htask

theorem unhaunted_drain (h : Counterpart σ (owed rest) w v) (hrest : Apt σ watched rest) :
    Unhaunted σ watched ((drain reply w).before rest) := by
  unfold drain
  split
  · exact unhaunted_done h hrest
  · rename_i hnext
    exact unhaunted_applied h hrest hnext .drain trivial

theorem unhaunted_shut (h : Counterpart σ (owed rest) w v) (hrest : Apt σ watched rest) :
    Unhaunted σ watched ((shut reply w).before rest) := by
  unfold shut
  split
  · exact unhaunted_done (h.finishClose.reply .engine).after hrest
  · rename_i hnext
    exact unhaunted_applied h hrest hnext .shut trivial

/-- A session that hears of an event is in the midst of a reaction more, and not over. -/
theorem unhaunted_sessionHears (h : Counterpart σ (owed rest) w v) (hrest : Apt σ watched rest)
    (event : EngineEvent) (id : Nat) :
    Unhaunted σ watched ((sessionHears reply w event id).before rest) := by
  unfold sessionHears
  cases hs : w.sessions.get? id with
  | none => exact unhaunted_done h hrest
  | some s =>
      simp only
      split
      · rename_i hreached
        have hid : σ.ended id = false := by
          cases hended : σ.ended id with
          | false => rfl
          | true =>
              have hdetached :=
                σ.detached id s hended ((h.proper.records id hended).symm.trans hs)
              have hresting := (h.paced.reacting id s hs).trans (h.paced.resting id hended)
              simp [hdetached, hresting] at hreached
        have hbegun : Counterpart σ (owed (.settle id :: rest)) (w.beginReaction id)
            (v.beginReaction id) := by
          refine h.changed
            (h.proper.changeSession hid (fun _ hs => hs) (fun _ _ => rfl)
              (fun _ _ huses => .inl huses) fun _ _ _ hsub => .inl hsub)
            (h.paced.count (f := fun n => n + 1) hid (h.proper.known id s hs) ?_ fun k hk => ?_)
          · exact List.countP_cons_of_pos (settles_iff.2 rfl)
          · refine List.countP_cons_of_neg fun hsettles => hk ?_
            exact (Task.settle.inj (settles_iff.1 hsettles)).symm
        have hsettling : Apt σ watched (.settle id :: rest) := ⟨hid, hrest⟩
        have hreacting := unhaunted_parts
          (b := ⟨(s.core.reactions w.engine.replica event).map (.react id), reply,
            w.beginReaction id⟩) hbegun hsettling fun part hpart => by
            obtain ⟨reaction, -, rfl⟩ := List.mem_map.1 hpart
            exact ⟨fun _ => rfl, List.mem_cons_self⟩
        unfold before at hreacting ⊢
        rw [List.append_assoc]
        exact hreacting
      · exact unhaunted_done h hrest

/-- A reaction ends. -/
theorem counterpart_endReaction {id : Nat} (h : Counterpart σ (owed (.settle id :: rest)) w v)
    (hid : σ.ended id = false) :
    Counterpart σ (owed rest) (w.endReaction id) (v.endReaction id) := by
  have howed : owed (.settle id :: rest) id = owed rest id + 1 :=
    List.countP_cons_of_pos (settles_iff.2 rfl)
  have hnumber : id < w.nextId := by
    refine Nat.lt_of_not_le fun hnext => ?_
    have hzero := h.paced.idle id hnext
    rw [howed] at hzero
    cases hzero
  refine h.changed
    (h.proper.changeSession hid (fun _ hs => hs) (fun _ _ => rfl)
      (fun _ _ huses => .inl huses) fun _ _ _ hsub => .inl hsub)
    (h.paced.count (f := fun n => n - 1) hid hnumber ?_ fun k hk => ?_)
  · rw [howed, Nat.add_sub_cancel]
  · refine (List.countP_cons_of_neg fun hsettles => hk ?_).symm
    exact (Task.settle.inj (settles_iff.1 hsettles)).symm

/-- Those who watch a session are told of what it announces before its reaction ends. -/
theorem unhaunted_react {id : Nat} {reaction : Reaction} (h : Counterpart σ (owed rest) w v)
    (hwatched : ∀ observer id other, w.Watches observer id → watched observer other → other = id)
    (hapt : Apt σ watched (.react id reaction :: rest)) :
    Unhaunted σ watched ((react reply w id reaction).before rest) := by
  have hid := not_ended_of_settle hapt.2 hapt.1
  unfold react
  cases hs : w.sessions.get? id with
  | none => exact unhaunted_done h hapt.2
  | some s =>
      have hcore := h.keepSession hid
        (f := fun old => { old with core := (s.core.react w.engine.replica reaction).1 })
        fun _ => ⟨rfl, rfl, rfl, List.Subset.refl _⟩
      simp only
      split
      · refine unhaunted_parts hcore hapt.2 fun part hpart => ?_
        simp only [announcement, modifySession, Dict.get?_modify, hs, if_true, Option.map_some]
          at hpart
        obtain ⟨observer, hobserver, rfl⟩ := List.mem_map.1 hpart
        obtain ⟨sub, hsub, rfl⟩ := List.mem_map.1 hobserver
        refine ⟨fun _ => rfl, fun other hother => ?_⟩
        obtain rfl := hwatched sub.handler id other
          ⟨s, hs, sub, List.mem_of_mem_filter hsub, rfl⟩ hother
        exact hapt.1
      · exact unhaunted_done hcore hapt.2

/-- An undo manager that is informed is in use. -/
theorem unhaunted_inform (h : Counterpart σ (owed rest) w v) (hrest : Apt σ watched rest)
    (id : Nat) : Unhaunted σ watched ((inform reply w id).before rest) := by
  have hold : ∀ other ∈ w.informed, σ.spare other = false :=
    fun _ hmem => not_spare_of_informed h.proper hmem
  unfold inform
  split
  · rename_i hused
    have hspare : σ.spare id = false := by
      cases hs : σ.spare id with
      | false => rfl
      | true =>
          rw [spare_iff.1 (h.proper.spare id hs).2] at hused
          cases hused
    have hinformed := h.withInformed (id :: w.informed) fun other hmem => by
      rcases List.mem_cons.1 hmem with rfl | hmem
      · exact hspare
      · exact hold other hmem
    unfold modification
    cases hm : w.undoManagers.get? id with
    | none =>
        refine unhaunted_aside hinformed hrest fun part hpart => ?_
        obtain rfl := List.mem_singleton.1 hpart
        exact hold
    | some m =>
        refine unhaunted_aside (hinformed.withManagers _) hrest fun part hpart => ?_
        rcases List.mem_append.1 hpart with hreport | hlast
        · split at hreport
          · obtain ⟨editor, -, rfl⟩ := List.mem_map.1 hreport
            trivial
          · cases hreport
        · obtain rfl := List.mem_singleton.1 hlast
          exact hold
  · exact unhaunted_done h hrest

theorem unhaunted_hear (h : Counterpart σ (owed rest) w v) (hrest : Apt σ watched rest)
    (event : EngineEvent) (listener : EngineListener) :
    Unhaunted σ watched ((hear reply w event listener).before rest) := by
  have hone : ∀ task : Task, task.Aside σ →
      Unhaunted σ watched (Agenda.before ⟨[task], reply, w⟩ rest) := fun task htask =>
    unhaunted_aside h hrest fun part hpart => by
      obtain rfl := List.mem_singleton.1 hpart
      exact htask
  cases listener with
  | session id => exact unhaunted_sessionHears h hrest event id
  | undoManager id => exact unhaunted_inform h hrest id
  | metadataRelay editor =>
      cases event with
      | metadataChanged set removed => exact hone _ trivial
      | _ => exact unhaunted_done h hrest
  | observer id => exact hone _ trivial

theorem unhaunted_tell (h : Counterpart σ (owed rest) w v) (hrest : Apt σ watched rest)
    (event : AnyEvent) (id : Nat) :
    Unhaunted σ watched ((tell reply w event id).before rest) := by
  unfold tell
  split
  · exact unhaunted_done h hrest
  · rename_i o ho
    refine unhaunted_aside ((h.record rfl).withObservers _) hrest fun part hpart => ?_
    rcases List.mem_append.1 hpart with hcommand | hlast
    · obtain ⟨c, -, hmem⟩ := List.mem_flatMap.1 hcommand
      simp only [List.mem_cons, List.not_mem_nil, or_false] at hmem
      rcases hmem with rfl | rfl <;> trivial
    · obtain rfl := List.mem_singleton.1 hlast
      trivial

theorem unhaunted_report (h : Counterpart σ (owed rest) w v) (hrest : Apt σ watched rest)
    (editor : Nat) (event : EditorEvent) :
    Unhaunted σ watched ((report reply w editor event).before rest) := by
  unfold report
  split
  · exact unhaunted_done h hrest
  · refine unhaunted_aside (h.withReporting _) hrest fun part hpart => ?_
    rcases List.mem_append.1 hpart with htell | hlast
    · obtain ⟨observer, -, rfl⟩ := List.mem_map.1 htell
      trivial
    · obtain rfl := List.mem_singleton.1 hlast
      trivial

/-- Whatever is begun, no remnant is taken up again. -/
theorem unhaunted_begin {task : Task} (h : Counterpart σ (owed (task :: rest)) w v)
    (hwatched : ∀ observer id other, w.Watches observer id → watched observer other → other = id)
    (hapt : Apt σ watched (task :: rest)) :
    Unhaunted σ watched ((begin reply w task).before rest) := by
  have hothers : (∀ id, task.settles id = false) → Counterpart σ (owed rest) w v := fun hsettles =>
    owed_cons hsettles ▸ h
  have hrest := hapt.2
  cases task with
  | perform command => exact unhaunted_perform (hothers fun _ => rfl) hrest command
  | note label => exact unhaunted_done ((hothers fun _ => rfl).record rfl) hrest
  | answer => exact unhaunted_done (hothers fun _ => rfl) hrest
  | drain => exact unhaunted_drain (hothers fun _ => rfl) hrest
  | shut => exact unhaunted_shut (hothers fun _ => rfl) hrest
  | publish event =>
      refine unhaunted_aside (hothers fun _ => rfl) hrest fun part hpart => ?_
      obtain ⟨listener, -, rfl⟩ := List.mem_map.1 hpart
      trivial
  | hear event listener => exact unhaunted_hear (hothers fun _ => rfl) hrest event listener
  | react id reaction => exact unhaunted_react (hothers fun _ => rfl) hwatched hapt
  | settle id => exact unhaunted_done (counterpart_endReaction h hapt.1) hrest
  | tell event observer => exact unhaunted_tell (hothers fun _ => rfl) hrest event observer
  | report editor event => exact unhaunted_report (hothers fun _ => rfl) hrest editor event
  | reporting editors => exact unhaunted_done ((hothers fun _ => rfl).withReporting editors) hrest
  | informed managers =>
      exact unhaunted_done ((hothers fun _ => rfl).withInformed _ hapt.1) hrest
  | holding holds => exact unhaunted_done ((hothers fun _ => rfl).withHolds holds) hrest

end Step

/-! ## Runs -/

section Runs

variable {σ : Remnants} {watched : Nat → Nat → Prop} {a : Agenda}

theorem Unhaunted.next (h : Unhaunted σ watched a)
    (hwatched : ∀ observer id other, a.workspace.Watches observer id →
      watched observer other → other = id) : Unhaunted σ watched a.next := by
  obtain ⟨⟨v, hv⟩, hapt⟩ := h
  unfold Agenda.next
  cases ht : a.tasks with
  | nil => exact ⟨⟨v, hv⟩, hapt⟩
  | cons task rest =>
      rw [ht] at hv hapt
      exact unhaunted_begin hv hwatched hapt

theorem Unhaunted.after (h : Unhaunted σ watched a) (n : Nat)
    (hwatched : ∀ k < n, ∀ observer id other, (a.after k).workspace.Watches observer id →
      watched observer other → other = id) : Unhaunted σ watched (a.after n) := by
  induction n generalizing a with
  | zero => exact h
  | succ n ih =>
      exact ih (h.next (hwatched 0 (Nat.succ_pos n))) fun k hk =>
        hwatched (k + 1) (Nat.succ_lt_succ hk)

end Runs

/-! ## What is left to do -/

section Outcomes

variable {σ : Remnants} {watched : Nat → Nat → Prop} {w v : Workspace} {reply reply' : Reply}
  {task : Task} {rest tasks : List Task}

/-- A task that is about no remnant comes to the same without the remnants. -/
theorem replies_outcome (h : Counterpart σ (owed (task :: rest)) w v)
    (hapt : Apt σ watched (task :: rest)) (hreply : reply'.unnumbered = reply.unnumbered) :
    Replies σ (owed rest) (task.outcome reply w) (task.outcome reply' v) := by
  have hothers : (∀ id, task.settles id = false) → Counterpart σ (owed rest) w v := fun hsettles =>
    owed_cons hsettles ▸ h
  have hact := indifferent_conduct
  cases task with
  | perform command => exact hact command (hothers fun _ => rfl)
  | note label =>
      refine ⟨hreply, (hothers fun _ => rfl).record ?_⟩
      simp only [LogEntry.unnumbered, hreply]
  | answer reply => exact ⟨rfl, hothers fun _ => rfl⟩
  | drain => exact ⟨hreply, (hothers fun _ => rfl).flush hact⟩
  | shut => exact ((hothers fun _ => rfl).flush hact).finishClose.reply .engine
  | publish event => exact ⟨hreply, (hothers fun _ => rfl).publish hact event⟩
  | hear event listener =>
      have hheard := hothers fun _ => rfl
      refine ⟨hreply, ?_⟩
      show Counterpart σ (owed rest) (w.hear conduct event listener) (v.hear conduct event listener)
      cases hlistener : σ.holds listener with
      | false => exact hheard.hear hact event hlistener
      | true =>
          rw [hear_remnant hheard.proper hheard.paced event hlistener,
            hheard.hear_absent event hlistener]
          exact hheard
  | react id reaction =>
      exact ⟨hreply, (hothers fun _ => rfl).reactOnce hact (not_ended_of_settle hapt.2 hapt.1)
        reaction⟩
  | settle id => exact ⟨hreply, counterpart_endReaction h hapt.1⟩
  | tell event observer => exact ⟨hreply, (hothers fun _ => rfl).notify hact event observer⟩
  | report editor event => exact ⟨hreply, (hothers fun _ => rfl).report hact editor event⟩
  | reporting editors => exact ⟨hreply, (hothers fun _ => rfl).withReporting editors⟩
  | informed managers => exact ⟨hreply, (hothers fun _ => rfl).withInformed _ hapt.1⟩
  | holding holds => exact ⟨hreply, (hothers fun _ => rfl).withHolds holds⟩

theorem replies_outcomes (h : Counterpart σ (owed tasks) w v) (hapt : Apt σ watched tasks)
    (hreply : reply'.unnumbered = reply.unnumbered) :
    Replies σ (owed []) (Task.outcomes tasks (reply, w)) (Task.outcomes tasks (reply', v)) := by
  induction tasks generalizing w v reply reply' with
  | nil => exact ⟨hreply, h⟩
  | cons task rest ih =>
      have hfirst := replies_outcome h hapt hreply
      exact ih hfirst.after hapt.2 hfirst.reply

end Outcomes

end Agenda

end Coedit
