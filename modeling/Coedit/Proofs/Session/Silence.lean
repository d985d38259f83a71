import Coedit.Proofs.Editor.Holding
import Coedit.Proofs.Session.Reactions

/-!
# Silence

A session that was destroyed is silent, whether its teardown succeeded or not, and so is one that
its editor let go of when a document was closed or could not be closed. As soon as no reaction of it
is under way it never reacts again: its record stays as it is, nobody who ever watched it is told
anything by it, and everybody else notices what they would notice if nothing were left of it. Only a
session that ends in the midst of a reaction of its own may go on, until that reaction is over.
-/

namespace Coedit

namespace Remnants

def empty : Remnants where
  ended _ := false
  records _ := none
  spare _ := false
  released _ := false
  awaited _ := false
  watched _ := none
  released_of_ended := nofun
  detached := nofun

def mark (σ : Remnants) (observer id : Nat) : Remnants :=
  { σ with watched := fun other => if other = observer then some id else none }

def only (id : Nat) (s : Session) (spare : Nat → Bool) (h : s.attached = false) : Remnants where
  ended other := other == id
  records _ := some s
  spare
  released other := other == id
  awaited _ := false
  watched _ := none
  released_of_ended _ hended := hended
  detached := by
    intro _ _ _ hs
    obtain rfl := Option.some.inj hs
    exact h

end Remnants

namespace Workspace

/-- The session is there, and nobody keeps it. -/
def Detached (w : Workspace) (id : Nat) : Prop :=
  ∃ s, w.sessions.get? id = some s ∧ s.attached = false

/-- The second workspace is the first without one session and without the subscriptions that are
`gone`; the logs say the same, apart from numbers in replies. -/
structure Lacks (gone : EngineListener → Bool) (id : Nat) (w v : Workspace) : Prop where
  same : ∃ sessions log, v =
    { w with engine := { w.engine with bus := w.engine.bus.without gone }, sessions, log }
  others : ∀ other, other ≠ id → v.sessions.get? other = w.sessions.get? other
  absent : v.sessions.get? id = none
  log : v.log.map LogEntry.unnumbered = w.log.map LogEntry.unnumbered

section Remnants

variable {σ : Remnants} {busy : Nat → Nat} {w v : Workspace}

/-- In a workspace without sessions nobody is over. -/
theorem counterpart_of_empty (hbus : w.engine.bus.subscriptions = []) (hsessions : w.sessions = ∅)
    (hstandalone : w.standalone = none) (heditor : w.editor = none) :
    Counterpart .empty (fun _ => 0) w w := by
  have hnone : ∀ id s, w.sessions.get? id ≠ some s := by
    intro id s hs
    rw [hsessions] at hs
    cases hs
  have hunowned : ∀ id, ¬ w.Owns id := by
    rintro id (h | ⟨e, h, -⟩)
    · cases hstandalone.symm.trans h
    · cases heditor.symm.trans h
  have hunwatched : ∀ observer id, ¬ w.Watches observer id :=
    fun observer id ⟨s, hs, _⟩ => hnone id s hs
  have hwithout : w.engine.bus.without Remnants.empty.holds = w.engine.bus := by
    unfold SignalBus.without
    rw [hbus, List.filter_nil, ← hbus]
  exact
    { same := ⟨w.sessions, w.log, by rw [hwithout]⟩
      sessions := fun _ _ => rfl
      gone := nofun
      log := rfl
      proper :=
        { known := fun id s hs => absurd hs (hnone id s)
          managed := fun id s _ hs => absurd hs (hnone id s)
          owned := fun id howns => absurd howns (hunowned id)
          single := fun _ _ he => nomatch heditor.symm.trans he
          watches := fun observer id h => absurd h (hunwatched observer id)
          apart := fun observer id _ h => absurd h (hunwatched observer id)
          watched := nofun
          released := nofun
          awaited := nofun
          records := nofun
          spare := nofun }
      paced := ⟨fun id s hs => absurd hs (hnone id s), fun _ _ => rfl, nofun⟩ }

theorem Counterpart.mark (h : Counterpart σ busy w v) {observer id : Nat}
    (hwatches : w.Watches observer id) : Counterpart (σ.mark observer id) busy w v where
  same := h.same
  sessions := h.sessions
  gone := h.gone
  log := h.log
  proper :=
    { h.proper.toConsistent with
      watched := by
        intro other k hk
        simp only [Remnants.mark, Option.ite_none_right_eq_some, Option.some.injEq] at hk
        obtain ⟨rfl, rfl⟩ := hk
        exact ⟨h.proper.watches other id hwatches, fun k hk =>
          h.proper.apart other k id hk hwatches⟩
      released := h.proper.released
      awaited := h.proper.awaited
      records := h.proper.records
      spare := h.proper.spare }
  paced := ⟨h.paced.reacting, h.paced.idle, h.paced.resting⟩

/-- A session that nobody keeps is over when it is in the midst of no reaction. -/
theorem Counterpart.only (h : Counterpart σ busy w v) {id : Nat} {s : Session}
    (hs : w.sessions.get? id = some s) (hdetached : s.attached = false) (hidle : busy id = 0)
    {spare : Nat → Bool}
    (hspare : ∀ manager, spare manager = true →
      s.input.undoManager = some manager ∧ w.Spare manager) :
    Counterpart (.only id s spare hdetached) busy w
      { w with
        engine := { w.engine with
          bus := w.engine.bus.without (Remnants.only id s spare hdetached).holds }
        sessions := w.sessions.erase id } where
  same := ⟨_, _, rfl⟩
  sessions other hother := by
    rw [Dict.get?_erase, if_neg fun hsame => (beq_eq_false_iff_ne.1 hother) hsame.symm]
  gone other hother := by
    rw [Dict.get?_erase, if_pos (beq_iff_eq.1 hother).symm]
  log := rfl
  proper :=
    { h.proper.toConsistent with
      watched := nofun
      released := by
        intro other hother
        obtain rfl := beq_iff_eq.1 hother
        refine ⟨⟨s, hs⟩, fun howns => ?_⟩
        obtain ⟨s', hs', hattached⟩ := h.proper.owned other howns
        obtain rfl := Option.some.inj (hs.symm.trans hs')
        rw [hdetached] at hattached
        cases hattached
      awaited := nofun
      records := by
        intro other hother
        obtain rfl := beq_iff_eq.1 hother
        exact hs
      spare := fun manager hmanager =>
        ⟨h.proper.managed id s manager hs (hspare manager hmanager).1,
          (hspare manager hmanager).2⟩ }
  paced :=
    { reacting := h.paced.reacting
      idle := h.paced.idle
      resting := by
        intro other hother
        obtain rfl := beq_iff_eq.1 hother
        exact hidle }

end Remnants

/-! ## How sessions end -/

section Ending

open Attempt (Triple)

variable {w v : Workspace} {σ : Remnants} {busy : Nat → Nat} {act : Conduct} {id : Nat}

theorem detached_dropSession (h : ∃ s, w.sessions.get? id = some s) :
    (w.dropSession id).Detached id := by
  obtain ⟨s, hs⟩ := h
  refine ⟨{ s with attached := false }, ?_, rfl⟩
  simp only [dropSession, modifySession, Dict.get?_modify, if_true, hs, Option.map_some]

/-- Nothing that is done to let go of sessions removes their records. -/
theorem recorded_unwinding : Unwinding fun w w' : Workspace =>
    ∀ id, (∃ s, w.sessions.get? id = some s) → ∃ s, w'.sessions.get? id = some s where
  refl _ _ h := h
  trans h h' id hs := h' id (h id hs)
  note := by
    intro w frontend note id hs
    cases frontend <;> exact hs
  unsubscribe _ _ _ _ hs := hs
  session := by
    intro w other f _ _ id ⟨s, hs⟩
    simp only [modifySession, Dict.get?_modify, hs]
    split
    · exact ⟨f s, rfl⟩
    · exact ⟨s, rfl⟩

/-- Whether the teardown of a session succeeds or fails at any part, nobody keeps the session. -/
theorem detached_destroySession (h : ∃ s, w.sessions.get? id = some s) :
    (w.destroySession id).2.Detached id := by
  obtain ⟨s, hs⟩ := h
  unfold destroySession
  rw [hs]
  have htorn : ∃ s', (tearDownAll (sessionTeardown id s.frontend) w).2.sessions.get? id = some s' :=
    tearDownAll_keeps (P := fun w' => ∃ s', w'.sessions.get? id = some s')
      (fun action hmem w' hw' => recorded_unwinding.sessionTeardown hmem w' id hw') ⟨s, hs⟩
  exact detached_dropSession htorn

/-- What concurs leads from one workspace with a counterpart to another. -/
theorem triple_of_concurs {ε α : Type} {a : Attempt ε α} (h : Attempt.Concurs σ busy a) :
    Triple (fun w => ∃ v, Counterpart σ busy w v) a
      (fun _ w => ∃ v, Counterpart σ busy w v) (fun _ w => ∃ v, Counterpart σ busy w v) := by
  rintro w ⟨v, hv⟩
  have hresult := h w v hv
  generalize a.result w = r at hresult ⊢
  generalize a.result v = r' at hresult
  cases hresult with
  | intro answer hdone => cases answer <;> exact ⟨_, hdone⟩

theorem detaches_leaveDocument (hact : Indifferent act) (e : Editor) (hid : σ.ended id = false)
    (hreleased : σ.released id = true) :
    Triple (fun w => ∃ v, Counterpart σ busy w v) (leaveDocument act e id)
      (fun _ w => w.Detached id) (fun _ w => ∃ v, Counterpart σ busy w v) := by
  refine leaveDocument_rule (D := fun w => ∃ v, Counterpart σ busy w v)
    (triple_of_concurs (concurs_byEngine fun w v h => h.submitFor hact hid .removeCursor))
    (triple_of_concurs (concurs_byEngine fun w v h => h.submit hact [.removeMember e.member]))
    (triple_of_concurs (concurs_byEngine fun w v h => h.closeEngine hact)) ?_ ?_
  · rintro w ⟨v, hv⟩
    exact ⟨_, hv.detachRelays⟩
  rintro w ⟨v, hv⟩
  have hdetached := detached_destroySession (hv.proper.released id hreleased).1
  have hdestroyed := (hv.destroySession hid hreleased).after
  generalize w.destroySession id = r at hdetached hdestroyed ⊢
  obtain ⟨answer, w'⟩ := r
  cases answer with
  | ok _ => exact hdetached
  | error cause => exact ⟨_, hdestroyed⟩

theorem detached_advance (action : EditorAction) :
    Triple (fun w => w.Detached id) (advance action) (fun _ w => w.Detached id)
      (fun _ w => w.Detached id) := by
  intro w hw
  simp only [advance, Attempt.result_of]
  cases w.editor with
  | none => exact hw
  | some e =>
      simp only
      cases e.state.next action <;> exact hw

/-- Whether closing succeeds or gives up before the session is destroyed, nobody keeps the session
afterwards. -/
theorem detached_closeDocument (h : Counterpart σ busy w v) (hact : Indifferent act) {e : Editor}
    (he : w.editor = some e) {state : EditorState} (hstate : e.state.next .close = .ok state)
    (hs : e.session = some id) : ((closeDocument act e).result w).2.Detached id := by
  have hid : (σ.release id).ended id = false := not_ended_of_owns h.proper (.inr ⟨e, he, hs⟩)
  have hreleased : (σ.release id).released id = true := σ.released_release id
  have hadvance : Triple (fun w' => w' = w) (advance .close)
      (fun _ w' => w' = { w with editor := some { e with state } })
      (fun _ w' => w'.Detached id) := by
    rintro _ rfl
    simp only [advance, Attempt.result_of, he, hstate]
  refine (closeDocument_rule (B := fun w' => ∃ v', Counterpart (σ.release id) busy w' v')
    (C := fun w' => ∃ v', Counterpart (σ.release id) busy w' v')
    (D := fun w' => ∃ v', Counterpart (σ.release id) busy w' v') hs hadvance ?_ ?_ ?_
    (detaches_leaveDocument hact e hid hreleased) ?_ (detached_advance .closed)).result rfl
  · rintro _ rfl
    exact ⟨_, h.part he state hs⟩
  · rintro w' ⟨v', hv⟩
    exact ⟨_, hv.setEditing hid false⟩
  · rintro w' ⟨v', hv⟩
    exact ⟨_, hv.attachToolbar e false⟩
  · rintro cause w' ⟨v', hv⟩
    have hreported := hv.detachRelays.report hact e.id (.unknownError cause.message)
    exact detached_dropSession (hreported.proper.released id hreleased).1

theorem Detached.of_sessions (h : w.Detached id) (hsessions : v.sessions = w.sessions) :
    v.Detached id := by
  unfold Detached at h ⊢
  rw [hsessions]
  exact h

/-- A command that destroys the standalone session leaves it to nobody. -/
theorem detached_execute_destroySession (h : Counterpart σ busy w v)
    (hs : w.standalone = some id) (hfree : w.isFree .standalone .exclusive = true) :
    (w.execute .destroySession).2.Detached id := by
  obtain ⟨s, hrecord, -⟩ := h.proper.owned id (.inl hs)
  have hdetached := detached_destroySession
    (w := { w with holds := (.standalone, .exclusive) :: w.holds, standalone := none })
    ⟨s, hrecord⟩
  rw [execute_eq_step]
  simp only [step, destroyStandalone, hs, holding, hfree, if_true, reply_snd]
  exact hdetached.of_sessions rfl

/-- A command that closes the document leaves the editor's session to nobody. -/
theorem detached_execute_close (h : Counterpart σ busy w v) {e : Editor}
    (he : w.editor = some e) {state : EditorState} (hstate : e.state.next .close = .ok state)
    (hs : e.session = some id) (hfree : w.isFree .editor .exclusive = true) :
    (w.execute (.editor .close)).2.Detached id := by
  have hdetached := detached_closeDocument (h.withHolds ((.editor, .exclusive) :: w.holds))
    indifferent_conduct he hstate hs
  rw [execute_eq_step]
  unfold step withEditor
  rw [he]
  simp only [holding, editorAccess, hfree, if_true, doEditor, reply_snd]
  exact hdetached.of_sessions rfl

end Ending

end Workspace

namespace Agenda

open Workspace

/-! ## Observers -/

section Run

variable {σ σ' : Remnants} {watched : Nat → Nat → Prop} {a : Agenda} {tasks : List Task}
  {files : FileTree} {commands : List Command}

theorem after_add (a : Agenda) (n m : Nat) : a.after (n + m) = (a.after n).after m := by
  induction n generalizing a with
  | zero => rw [Nat.zero_add]; rfl
  | succ n ih =>
      rw [Nat.add_right_comm]
      exact ih a.next

/-- Tasks that are about nobody who is over. -/
theorem apt_of_apt (h : Apt σ watched tasks)
    (hended : ∀ id, .settle id ∈ tasks → σ'.ended id = false)
    (hspare : ∀ managers, .informed managers ∈ tasks → ∀ id ∈ managers, σ'.spare id = false) :
    Apt σ' watched tasks := by
  induction tasks with
  | nil => exact trivial
  | cons task rest ih =>
      refine ⟨?_, ih h.2 (fun id hmem => hended id (List.mem_cons_of_mem _ hmem))
        fun managers hmem => hspare managers (List.mem_cons_of_mem _ hmem)⟩
      have hapt := h.1
      cases task with
      | settle id => exact hended id List.mem_cons_self
      | informed managers => exact hspare managers List.mem_cons_self
      | tell event observer => cases event <;> exact hapt
      | _ => exact hapt

/-- At first there is nobody to be haunted by. -/
theorem unhaunted_start (watched : Nat → Nat → Prop) (files : FileTree) (commands : List Command) :
    Unhaunted .empty watched (start commands { files := files }) := by
  have haside : ∀ part ∈ commands.map Task.perform, part.Aside .empty := by
    intro part hpart
    obtain ⟨c, -, rfl⟩ := List.mem_map.1 hpart
    trivial
  have hstart : Unhaunted .empty watched ((start commands { files := files }).before []) :=
    unhaunted_aside (counterpart_of_empty rfl rfl rfl rfl) trivial haside
  unfold before at hstart
  rw [List.append_nil] at hstart
  exact hstart

/-- Whoever watches a session never watches another one. -/
theorem watches_once_of_le {n m observer id other : Nat} (hle : n ≤ m)
    (h : ((start commands { files := files }).after n).workspace.Watches observer id)
    (h' : ((start commands { files := files }).after m).workspace.Watches observer other) :
    other = id := by
  have hnobody : ∀ observer id other : Nat, ∀ w : Workspace, w.Watches observer id →
      False → other = id := fun _ _ _ _ _ hfalse => hfalse.elim
  have hstart := (unhaunted_start (fun _ _ => False) files commands).after n fun k _ _ _ _ =>
    hnobody _ _ _ _
  obtain ⟨⟨v, hv⟩, hapt⟩ := hstart
  have hmarked : Unhaunted (Remnants.empty.mark observer id) (fun _ _ => False)
      ((start commands { files := files }).after n) :=
    ⟨⟨v, hv.mark h⟩, apt_of_apt hapt (fun _ _ => rfl) fun _ _ _ _ => rfl⟩
  have hlater := hmarked.after (m - n) fun k _ _ _ _ => hnobody _ _ _ _
  rw [← after_add, Nat.add_sub_cancel' hle] at hlater
  obtain ⟨⟨v', hv'⟩, -⟩ := hlater
  exact (hv'.proper.watched observer id (if_pos rfl)).2 other h'

theorem watches_once {n m observer id other : Nat}
    (h : ((start commands { files := files }).after n).workspace.Watches observer id)
    (h' : ((start commands { files := files }).after m).workspace.Watches observer other) :
    other = id := by
  rcases Nat.le_total n m with hle | hle
  · exact watches_once_of_le hle h h'
  · exact (watches_once_of_le hle h' h).symm

/-- The observer watches the session at some moment. -/
def Follows (run : Agenda) (observer id : Nat) : Prop :=
  ∃ n, (run.after n).workspace.Watches observer id

theorem unhaunted_run (files : FileTree) (commands : List Command) (n : Nat) :
    Unhaunted .empty (start commands { files := files }).Follows
      ((start commands { files := files }).after n) := by
  refine (unhaunted_start _ files commands).after n fun k _ observer id other hwatches hfollows => ?_
  obtain ⟨m, hm⟩ := hfollows
  exact watches_once hwatches hm

end Run

/-! ## What is left of a session -/

/-- The subscription is the session's own, or that of its undo manager, which nobody uses or is
informing any more. -/
def leftover (a : Agenda) (id : Nat) : EngineListener → Bool
  | .session other => other == id
  | .undoManager manager =>
    (a.workspace.sessions.get? id).any (·.input.undoManager == some manager) &&
      !a.workspace.isUndoManagerUsed manager && !a.tasks.any (Task.informs manager)
  | _ => false

def without (a : Agenda) (id : Nat) : Agenda :=
  { a with workspace := { a.workspace with
      engine := { a.workspace.engine with bus := a.workspace.engine.bus.without (a.leftover id) }
      sessions := a.workspace.sessions.erase id } }

/-- The session has the record, no reaction of it is under way, and nobody who watches it at any
moment of the run is about to be told something by a session. -/
structure Silent (run : Agenda) (id : Nat) (s : Session) (a : Agenda) : Prop where
  record : a.workspace.sessions.get? id = some s
  settles : .settle id ∉ a.tasks
  reacts : ∀ reaction, .react id reaction ∉ a.tasks
  tells : ∀ event observer, run.Follows observer id → .tell (.session event) observer ∉ a.tasks

section Silence

variable {σ : Remnants} {watched : Nat → Nat → Prop} {a : Agenda} {tasks : List Task} {id : Nat}

theorem settle_of_react (h : Apt σ watched tasks) {reaction : Reaction}
    (hmem : .react id reaction ∈ tasks) : .settle id ∈ tasks := by
  induction tasks with
  | nil => cases hmem
  | cons task rest ih =>
      rcases List.mem_cons.1 hmem with rfl | hmem
      · exact List.mem_cons_of_mem _ h.1
      · exact List.mem_cons_of_mem _ (ih h.2 hmem)

theorem settle_of_tell (h : Apt σ watched tasks) {event : SessionEvent} {observer : Nat}
    (hwatched : watched observer id) (hmem : .tell (.session event) observer ∈ tasks) :
    .settle id ∈ tasks := by
  induction tasks with
  | nil => cases hmem
  | cons task rest ih =>
      rcases List.mem_cons.1 hmem with rfl | hmem
      · exact List.mem_cons_of_mem _ (h.1 id hwatched)
      · exact List.mem_cons_of_mem _ (ih h.2 hmem)

/-- Whoever is over is silent. -/
theorem silent_of_unhaunted {run : Agenda} {s : Session} {spare : Nat → Bool}
    {hdetached : s.attached = false}
    (h : Unhaunted (.only id s spare hdetached) run.Follows a) : Silent run id s a := by
  obtain ⟨⟨v, hv⟩, hapt⟩ := h
  have hsettles : .settle id ∉ a.tasks := fun hmem => by
    have hended := not_ended_of_settle hapt hmem
    simp [Remnants.only] at hended
  exact
    { record := hv.proper.records id (beq_self_eq_true id)
      settles := hsettles
      reacts := fun _ hmem => hsettles (settle_of_react hapt hmem)
      tells := fun _ _ hfollows hmem => hsettles (settle_of_tell hapt hfollows hmem) }

/-- A session that nobody keeps haunts nobody once no reaction of it is under way. -/
theorem unhaunted_over {s : Session} (h : Unhaunted .empty watched a)
    (hs : a.workspace.sessions.get? id = some s) (hdetached : s.attached = false)
    (hidle : .settle id ∉ a.tasks) :
    let σ := Remnants.only id s (fun manager => a.leftover id (.undoManager manager)) hdetached
    Counterpart σ (owed a.tasks) a.workspace (a.without id).workspace ∧
      Unhaunted σ watched a := by
  intro σ
  obtain ⟨⟨v, hv⟩, hapt⟩ := h
  have hspare : ∀ manager, a.leftover id (.undoManager manager) = true →
      s.input.undoManager = some manager ∧ a.workspace.Spare manager ∧
        ∀ task ∈ a.tasks, task.informs manager = false := by
    intro manager hmanager
    simp only [leftover, hs, Option.any_some, Bool.and_eq_true, beq_iff_eq, Bool.not_eq_true',
      List.any_eq_false, Bool.not_eq_true] at hmanager
    obtain ⟨⟨huses, hunused⟩, hinforms⟩ := hmanager
    exact ⟨huses, spare_iff.2 hunused, hinforms⟩
  have hholds : σ.holds = a.leftover id := by
    funext listener
    cases listener <;> rfl
  have hover := hv.only hs hdetached (owed_eq_zero.2 hidle)
    fun manager hmanager => ⟨(hspare manager hmanager).1, (hspare manager hmanager).2.1⟩
  have hcounterpart : Counterpart σ (owed a.tasks) a.workspace (a.without id).workspace := by
    unfold without
    rw [← hholds]
    exact hover
  refine ⟨hcounterpart, ⟨_, hcounterpart⟩, apt_of_apt hapt (fun other hmem => ?_)
    fun managers hmem manager hmanager => ?_⟩
  · refine beq_eq_false_iff_ne.2 fun hsame => hidle ?_
    rw [← hsame]
    exact hmem
  · refine Bool.eq_false_iff.2 fun hleft => ?_
    have hinforms := (hspare manager hleft).2.2 _ hmem
    rw [Task.informs, List.contains_iff_mem.2 hmanager] at hinforms
    cases hinforms

theorem Unhaunted.lacks {s : Session} {spare : Nat → Bool} {hdetached : s.attached = false}
    (h : Unhaunted (.only id s spare hdetached) watched a) {b : Agenda}
    (hb : Counterpart (.only id s spare hdetached) (owed a.tasks) a.workspace b.workspace)
    (htasks : b.tasks = a.tasks) (hreply : b.reply = a.reply) :
    b.finish.1.unnumbered = a.finish.1.unnumbered ∧
      Lacks (Remnants.only id s spare hdetached).holds id a.finish.2 b.finish.2 := by
  have hfinish : Replies _ _ (Task.outcomes a.tasks (a.reply, a.workspace))
      (Task.outcomes a.tasks (a.reply, b.workspace)) := replies_outcomes hb h.apt rfl
  unfold finish
  rw [htasks, hreply]
  exact ⟨hfinish.reply,
    { same := hfinish.after.same
      others := fun other hother => hfinish.after.sessions other (beq_eq_false_iff_ne.2 hother)
      absent := hfinish.after.gone id (beq_self_eq_true id)
      log := hfinish.after.log }⟩

end Silence

/-- In every run, a session that is destroyed is left to nobody, whether its teardown succeeds or
fails, and so is an editor's session when its document is closed, whether closing succeeds or is
given up. Whichever way a session was left to nobody, from the first moment on at which no reaction
of it is under way, and whatever is done then, its record never changes again and it tells nobody
anything; and when all is done, everybody else is where they would be, and noticed what they would
have noticed, if at that moment the session and its subscriptions had not been there. -/
theorem ended_sessions_stay_silent (files : FileTree) (commands : List Command) (n : Nat) :
    let run := start commands { files := files }
    let a := run.after n
    (∀ id, a.workspace.standalone = some id → a.workspace.isFree .standalone .exclusive = true →
      (a.workspace.execute .destroySession).2.Detached id) ∧
    (∀ e state id, a.workspace.editor = some e → e.state.next .close = .ok state →
      e.session = some id → a.workspace.isFree .editor .exclusive = true →
      (a.workspace.execute (.editor .close)).2.Detached id) ∧
    ∀ id s, a.workspace.sessions.get? id = some s → s.attached = false → .settle id ∉ a.tasks →
      (∀ m, Silent run id s (run.after (n + m))) ∧
      (a.without id).finish.1.unnumbered = a.finish.1.unnumbered ∧
      Lacks (a.leftover id) id a.finish.2 (a.without id).finish.2 := by
  intro run a
  have hunhaunted : Unhaunted .empty run.Follows a := unhaunted_run files commands n
  obtain ⟨v, hv⟩ := hunhaunted.counterpart
  refine ⟨fun id hs hfree => detached_execute_destroySession hv hs hfree,
    fun e state id he hstate hs hfree => detached_execute_close hv he hstate hs hfree,
    fun id s hs hdetached hidle => ?_⟩
  obtain ⟨hcounterpart, hover⟩ := unhaunted_over hunhaunted hs hdetached hidle
  have hholds : (Remnants.only id s (fun manager => a.leftover id (.undoManager manager))
      hdetached).holds = a.leftover id := by
    funext listener
    cases listener <;> rfl
  refine ⟨fun m => ?_, ?_⟩
  · have hlater := hover.after m fun k _ observer other followed hwatches hfollows => by
      rw [← after_add] at hwatches
      obtain ⟨l, hl⟩ := hfollows
      exact watches_once hwatches hl
    rw [after_add]
    exact silent_of_unhaunted hlater
  · rw [← hholds]
    exact hover.lacks hcounterpart rfl rfl

/-! ## A session that refuses to be torn down -/

/-- A session whose view refuses to be torn down, and somebody who watches it. -/
def watchedStubborn (actions : List Command) : List Command :=
  [.engine (.register "doc" (({} : Document).addParagraph "one" .default)), .engine (.load "doc"),
    .newSession { member := ⟨"m"⟩, frontend := .recording ["session view"] },
    .watchSession .memberAdded "watcher" actions 1]

/-- The session is destroyed, which fails, and members come after that. -/
def destroyedBetween : List Command :=
  watchedStubborn [] ++
    [.destroySession, .engine (.enqueue [.addMember ⟨"a"⟩ {}]), .engine .flush]

/-- The session keeps its watcher and its subscriptions to the engine, and is silent for ever. -/
theorem stubborn_session_silent :
    ∃ s, s.attached = false ∧ s.bus.handlers .memberAdded = [1] ∧
      .session 0 ∈ ((start destroyedBetween {}).after 5).workspace.engine.bus.handlers
        .memberAdded ∧
      ∀ m, Silent (start destroyedBetween {}) 0 s ((start destroyedBetween {}).after (5 + m)) := by
  have hrecord : (((start destroyedBetween {}).after 5).workspace.sessions.get? 0).map
      (fun s => (s.attached, s.bus.handlers .memberAdded)) = some (false, [1]) := by
    decide +kernel
  have hidle : Task.settle 0 ∉ ((start destroyedBetween {}).after 5).tasks :=
    owed_eq_zero.1 (by decide +kernel)
  have hkept : .session 0 ∈
      ((start destroyedBetween {}).after 5).workspace.engine.bus.handlers .memberAdded := by
    decide +kernel
  obtain ⟨s, hs, hparts⟩ := Option.map_eq_some_iff.1 hrecord
  obtain ⟨hdetached, hwatched⟩ := Prod.mk.inj hparts
  have hsilent := (ended_sessions_stay_silent {} destroyedBetween 5).2.2 0 s hs hdetached hidle
  exact ⟨s, hdetached, hwatched, hkept, hsilent.1⟩

/-- The watcher destroys the session when the first member comes, and lets another one come. -/
def destroyedInside : List Command :=
  watchedStubborn
      [.destroySession, .engine (.enqueue [.addMember ⟨"b"⟩ {}]), .engine .flush] ++
    [.engine (.enqueue [.addMember ⟨"a"⟩ {}]), .engine .flush]

def telling? (a : Agenda) : Option (SessionEvent × Nat) :=
  match a.tasks with
  | .tell (.session event) observer :: _ => some (event, observer)
  | _ => none

/-- The session is over before the second member comes, and tells its watcher nevertheless. -/
theorem detached_session_speaks :
    let run := start destroyedInside {}
    ((run.after 13).workspace.sessions.get? 0).map (·.attached) = some false ∧
      (run.after 13).workspace.engine.pending = [] ∧
      (run.after 13).workspace.engine.replica.members.get? ⟨"b"⟩ = none ∧
      (run.after 22).telling? = some (.memberAdded ⟨"b"⟩, 1) := by
  intro run
  have hdetached : ((run.after 13).workspace.sessions.get? 0).map (·.attached) = some false := by
    decide +kernel
  have hpending : (run.after 13).workspace.engine.pending.isEmpty = true := by decide +kernel
  have habsent : ((run.after 13).workspace.engine.replica.members.get? ⟨"b"⟩).isNone = true := by
    decide +kernel
  have htelling : (run.after 22).telling? = some (.memberAdded ⟨"b"⟩, 1) := by decide +kernel
  exact ⟨hdetached, List.isEmpty_iff.1 hpending, Option.isNone_iff_eq_none.1 habsent, htelling⟩

end Agenda

end Coedit
