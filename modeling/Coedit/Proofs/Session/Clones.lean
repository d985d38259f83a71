import Coedit.Proofs.Session.Reservation

/-!
# Clones in every run

A run is sound as long as every style that waits in the queue is reserved, with no release of
it due before the queue is applied, and is not a style of the document. One kind of step ends
this: a clone that only queues its style while a release of the identifier that it takes is
due. Until then no clone is given the identifier of a waiting style, and none is ever given
that of a style of the document.
-/

namespace Coedit.Agenda

open Replica (StyleStep)

variable {id : Nat}

/-! ## Sound agendas -/

/-- Every batch adds or removes at most one style; the waiting styles are distinct, and the
document has none of them. -/
structure Orderly (w : Workspace) : Prop where
  steps : ∀ batch ∈ w.engine.pending, StyleStep batch
  nodup : w.waitingStyles.Nodup
  absent : ∀ style ∈ w.waitingStyles, w.engine.document.styles.contains style = false

/-- Every waiting style is reserved and will be so when its batch is applied. -/
structure Protected (id : Nat) (a : Agenda) : Prop where
  reserved : ∀ style ∈ a.workspace.waitingStyles, style ∈ a.workspace.reservedStyles id
  lasting : ∀ style ∈ a.workspace.waitingStyles, style ∉ due id a.tasks

/-- A clone that is only queued takes an identifier whose release is due. -/
def Reckless (id : Nat) (a : Agenda) : Prop :=
  a.workspace.engine.immediate = false ∧ ∃ style, a.cloned? = some style ∧ style ∈ due id a.tasks

theorem orderly_of_empty {w : Workspace} (h : w.engine.pending = []) : Orderly w where
  steps := by simp [h]
  nodup := by simp [Workspace.waitingStyles, h]
  absent := by simp [Workspace.waitingStyles, h]

theorem protected_of_empty {a : Agenda} (h : a.workspace.engine.pending = []) :
    Protected id a where
  reserved := by simp [Workspace.waitingStyles, h]
  lasting := by simp [Workspace.waitingStyles, h]

theorem waitingStyles_congr {w w' : Workspace} (h : w'.engine.pending = w.engine.pending) :
    w'.waitingStyles = w.waitingStyles := by
  unfold Workspace.waitingStyles
  rw [h]

theorem orderly_congr {w w' : Workspace} (hpending : w'.engine.pending = w.engine.pending)
    (hreplica : w'.engine.replica = w.engine.replica) (h : Orderly w) : Orderly w' where
  steps := by
    rw [hpending]
    exact h.steps
  nodup := by
    rw [waitingStyles_congr hpending]
    exact h.nodup
  absent := by
    rw [waitingStyles_congr hpending]
    unfold Engine.document
    rw [hreplica]
    exact h.absent

/-! ## Steps that do not apply the queue -/

theorem perform_ne_apply (c : Command) : Task.perform c ≠ .drain ∧ Task.perform c ≠ .shut :=
  ⟨fun h => (by cases h), fun h => by cases h⟩

/-- A step that leaves the queue alone, keeps the reservations and brings no releases. -/
theorem protected_before {a b : Agenda} {task : Task} {rest : List Task}
    (htasks : a.tasks = task :: rest) (happlies : task ≠ .drain ∧ task ≠ .shut)
    (hpending : b.workspace.engine.pending = a.workspace.engine.pending)
    (hreserved : ∀ style ∈ a.workspace.reservedStyles id, task.released? id ≠ some style →
      style ∈ b.workspace.reservedStyles id)
    (hreleased : ∀ part ∈ b.tasks, ∀ style, part.released? id = some style →
      task.released? id = some style)
    (h : Protected id a) : Protected id (b.before rest) := by
  have hdue : ∀ style, task.released? id = some style ∨ style ∈ due id rest →
      style ∈ due id a.tasks := by
    intro style hstyle
    rw [htasks]
    by_cases hd : task.delivers = true
    · rw [due_cons hd, List.mem_append]
      exact hstyle.imp_left fun hr => by simp [hr]
    · cases task with
      | perform c => exact hstyle.elim (fun hr => by cases hr) fun h => h
      | drain => exact (happlies.1 rfl).elim
      | shut => exact (happlies.2 rfl).elim
      | _ => exact (hd rfl).elim
  constructor
  · intro style hstyle
    have hwaiting : style ∈ a.workspace.waitingStyles := by
      rw [← waitingStyles_congr hpending]
      exact hstyle
    exact hreserved style (h.reserved style hwaiting) fun hr =>
      h.lasting style hwaiting (hdue style (.inl hr))
  · intro style hstyle hmem
    have hwaiting : style ∈ a.workspace.waitingStyles := by
      rw [← waitingStyles_congr hpending]
      exact hstyle
    apply h.lasting style hwaiting (hdue style _)
    rcases mem_due_append hmem with ⟨part, hpart, hr⟩ | hrest
    · exact .inl (hreleased part hpart style hr)
    · exact .inr hrest

theorem sound_deliver {a : Agenda} {task : Task} {rest : List Task}
    (htasks : a.tasks = task :: rest) (hd : task.delivers = true) (hp : Protected id a)
    (ho : Orderly a.workspace) : Protected id a.next ∧ Orderly a.next.workspace := by
  have hengine := engine_begin hd a.reply a.workspace
  have hnext : a.next = (begin a.reply a.workspace task).before rest := by
    unfold next
    rw [htasks]
  rw [hnext]
  constructor
  · refine protected_before htasks ?_ (by rw [hengine]) ?_ ?_ hp
    · constructor <;> rintro rfl <;> exact Bool.noConfusion hd
    · exact fun style hmem hr => reserved_begin hd hmem hr
    · exact fun part hpart style hr => released?_begin hd hpart hr
  · exact orderly_congr (by rw [← hengine]; rfl) (by rw [← hengine]; rfl) ho

/-! ## Steps that apply the queue -/

theorem waitingStyles_cons {w : Workspace} {batch : Batch} {later : List Batch}
    (h : w.engine.pending = batch :: later) :
    w.waitingStyles = batch.addedStyles ++ later.flatMap Batch.addedStyles := by
  unfold Workspace.waitingStyles
  rw [h]
  rfl

/-- Applying a batch keeps the other waiting styles out of the document. -/
theorem orderly_apply {w : Workspace} {batch : Batch} {later : List Batch}
    (hpending : w.engine.pending = batch :: later) (h : Orderly w) :
    Orderly { w with engine := { w.engine with
      replica := (w.engine.replica.applyBatch batch).1, pending := later } } := by
  have hwaiting := waitingStyles_cons hpending
  have hnodup := h.nodup
  rw [hwaiting] at hnodup
  constructor
  · intro other hmem
    exact h.steps other (by rw [hpending]; exact List.mem_cons_of_mem _ hmem)
  · exact (List.nodup_append.1 hnodup).2.1
  · intro style hmem
    cases hc : Dict.contains (w.engine.replica.applyBatch batch).1.document.styles style with
    | false => exact hc
    | true =>
        have hstep : StyleStep batch := h.steps batch (by rw [hpending]; exact List.mem_cons_self)
        rcases Replica.contains_applyBatch hstep _ hc with hadded | hold
        · exact ((List.nodup_append.1 hnodup).2.2 style hadded style hmem rfl).elim
        · have habsent := h.absent style (by rw [hwaiting]; exact List.mem_append_right _ hmem)
          rw [Engine.document, hold] at habsent
          cases habsent

theorem due_publish {events : List EngineEvent} {last : Task} {rest : List Task}
    (hlast : last = .drain ∨ last = .shut) {style : StyleId}
    (h : style ∈ due id (events.map .publish ++ [last] ++ rest)) :
    ∃ event ∈ events, event.style? = some style := by
  rw [List.append_assoc] at h
  rcases mem_due_append h with ⟨task, htask, hr⟩ | hrest
  · obtain ⟨event, hevent, rfl⟩ := List.mem_map.1 htask
    exact ⟨event, hevent, hr⟩
  · rcases hlast with rfl | rfl <;> cases hrest

/-- Applying a batch announces no release of a style that still waits. -/
theorem protected_apply {a : Agenda} {batch : Batch} {later : List Batch} {last : Task}
    {rest : List Task} (hlast : last = .drain ∨ last = .shut)
    (hpending : a.workspace.engine.pending = batch :: later) (hp : Protected id a)
    (ho : Orderly a.workspace) :
    Protected id ⟨(a.workspace.engine.replica.applyBatch batch).2.map .publish ++ [last] ++ rest,
      a.reply, { a.workspace with engine := { a.workspace.engine with
        replica := (a.workspace.engine.replica.applyBatch batch).1, pending := later } }⟩ := by
  have hwaiting := waitingStyles_cons hpending
  have hnodup := ho.nodup
  rw [hwaiting] at hnodup
  have hsub : ∀ style ∈ later.flatMap Batch.addedStyles, style ∈ a.workspace.waitingStyles := by
    intro style hmem
    rw [hwaiting]
    exact List.mem_append_right _ hmem
  constructor
  · exact fun style hmem => hp.reserved style (hsub style hmem)
  · intro style hmem hdue
    obtain ⟨event, hevent, hstyle⟩ := due_publish hlast hdue
    have hstep : StyleStep batch := ho.steps batch (by rw [hpending]; exact List.mem_cons_self)
    rcases Replica.style?_applyBatch hstep hevent hstyle with hadded | hold
    · exact (List.nodup_append.1 hnodup).2.2 style hadded style hmem rfl
    · have habsent := ho.absent style (hsub style hmem)
      rw [Engine.document, hold] at habsent
      cases habsent

theorem sound_drain {a : Agenda} {rest : List Task} (htasks : a.tasks = .drain :: rest)
    (hp : Protected id a) (ho : Orderly a.workspace) :
    Protected id a.next ∧ Orderly a.next.workspace := by
  have hnext : a.next = (drain a.reply a.workspace).before rest := by
    unfold next
    rw [htasks]
    rfl
  rw [hnext]
  unfold drain
  obtain ⟨hempty, hnone⟩ | ⟨batch, later, hpending, hsome⟩ := Engine.applyNext?_cases a.workspace.engine
  · rw [hnone]
    exact ⟨protected_of_empty hempty, orderly_of_empty hempty⟩
  · rw [hsome]
    exact ⟨protected_apply (.inl rfl) hpending hp ho, orderly_apply hpending ho⟩

theorem sound_shut {a : Agenda} {rest : List Task} (htasks : a.tasks = .shut :: rest)
    (hp : Protected id a) (ho : Orderly a.workspace) :
    Protected id a.next ∧ Orderly a.next.workspace := by
  have hnext : a.next = (shut a.reply a.workspace).before rest := by
    unfold next
    rw [htasks]
    rfl
  rw [hnext]
  unfold shut
  obtain ⟨hempty, hnone⟩ | ⟨batch, later, hpending, hsome⟩ := Engine.applyNext?_cases a.workspace.engine
  · rw [hnone]
    have hclosed : (Workspace.reply .engine a.workspace.closeNow).2.engine.pending = [] := by
      rw [engine_closeNow, (effect_finishClose hempty).1, hempty]
    exact ⟨protected_of_empty hclosed, orderly_of_empty hclosed⟩
  · rw [hsome]
    exact ⟨protected_apply (.inr rfl) hpending hp ho, orderly_apply hpending ho⟩

/-! ## Steps of edits -/

theorem waitingStyles_queued {w w' : Workspace} {batch : Batch}
    (h : w'.engine = queued w.engine batch) :
    w'.waitingStyles = w.waitingStyles ++ batch.addedStyles := by
  unfold Workspace.waitingStyles
  rw [h]
  simp [queued]

theorem mem_due_queued {immediate : Bool} {reply : Reply} {holds : List (Place × Access)}
    {rest : List Task} {style : StyleId}
    (h : style ∈ due id ((if immediate then [.drain] else []) ++
      [.answer reply, .holding holds] ++ rest)) : immediate = false ∧ style ∈ due id rest := by
  cases immediate with
  | true => cases h
  | false => exact ⟨rfl, h⟩

/-- An edit that adds no style changes nothing about those that wait. -/
theorem sound_queued_none {w w' : Workspace} {p : Proposal} (hnone : SessionCore.AddsNone p)
    (hengine : w'.engine = queued w.engine p.batch) (ho : Orderly w) :
    w'.waitingStyles = w.waitingStyles ∧ Orderly w' := by
  have hwaiting : w'.waitingStyles = w.waitingStyles := by
    rw [waitingStyles_queued hengine, hnone.added, List.append_nil]
  refine ⟨hwaiting, ?_, ?_, ?_⟩
  · intro batch hmem
    rw [hengine] at hmem
    rcases List.mem_append.1 hmem with hmem | hmem
    · exact ho.steps batch hmem
    · rw [List.mem_singleton.1 hmem]
      exact hnone.step
  · rw [hwaiting]
    exact ho.nodup
  · rw [hwaiting, hengine]
    exact ho.absent

/-- A clone adds a style that neither waits nor is in the document. -/
theorem orderly_queued_adds {w w' : Workspace} {s : Session} {p : Proposal} {style : StyleId}
    (hadds : s.core.Adds w.engine.replica style p)
    (hengine : w'.engine = queued w.engine p.batch) (hfresh : style ∉ w.waitingStyles)
    (ho : Orderly w) : w'.waitingStyles = w.waitingStyles ++ [style] ∧ Orderly w' := by
  obtain ⟨definition, hbatch⟩ := hadds.batch
  have hwaiting : w'.waitingStyles = w.waitingStyles ++ [style] := by
    rw [waitingStyles_queued hengine, hbatch]
    rfl
  refine ⟨hwaiting, ?_, ?_, ?_⟩
  · intro batch hmem
    rw [hengine] at hmem
    rcases List.mem_append.1 hmem with hmem | hmem
    · exact ho.steps batch hmem
    · rw [List.mem_singleton.1 hmem, hbatch]
      exact .add _ _ _ _ rfl
  · rw [hwaiting, List.nodup_append]
    refine ⟨ho.nodup, by simp, ?_⟩
    intro other hother added hadded heq
    rw [List.mem_singleton.1 hadded] at heq
    exact hfresh (heq ▸ hother)
  · intro other hother
    rw [hengine]
    rw [hwaiting, List.mem_append, List.mem_singleton] at hother
    rcases hother with hother | rfl
    · exact ho.absent other hother
    · exact hadds.absent

theorem next_edit {a : Agenda} {e : Edit} {rest : List Task}
    (htasks : a.tasks = .perform (.session (.edit e)) :: rest) :
    a.next = (edit a.reply a.workspace e).before rest := by
  unfold next
  rw [htasks]
  rfl

theorem cloned?_of_answer {a : Agenda} {source style : StyleId} {displayName : String}
    {rest : List Task} (htasks : a.tasks =
      .perform (.session (.edit (.cloneStyle source displayName))) :: rest)
    (hanswer : (edit a.reply a.workspace (.cloneStyle source displayName)).finish.1 =
      .edited (.created style)) : a.cloned? = some style := by
  unfold cloned?
  rw [htasks]
  rw [finish_edit] at hanswer
  simp only [hanswer]

theorem sound_edit {a : Agenda} {e : Edit} {rest : List Task}
    (htasks : a.tasks = .perform (.session (.edit e)) :: rest) (ha : a.workspace.Alone id)
    (hreckless : ¬ Reckless id a) (hp : Protected id a) (ho : Orderly a.workspace) :
    Protected id a.next ∧ Orderly a.next.workspace := by
  have hrest : ∀ style, style ∈ due id rest → style ∈ due id a.tasks := by
    intro style hmem
    rw [htasks]
    exact hmem
  rw [next_edit htasks]
  cases editing ha a.reply e with
  | kept engine kept tasks answer =>
      refine ⟨protected_before htasks (perform_ne_apply _) (by rw [engine]) (fun s h _ => kept s h)
        ?_ hp, orderly_congr (by rw [← engine]; rfl) (by rw [← engine]; rfl) ho⟩
      intro part hpart style hr
      rw [tasks part hpart] at hr
      cases hr
  | queued s p hs hproposal engine kept reserved tasks =>
      rcases SessionCore.propose_cases hproposal with
        ⟨source, displayName, rfl, style, hadds⟩ | hnone
      · have hfresh : style ∉ a.workspace.waitingStyles := by
          intro hmem
          have hres := hp.reserved style hmem
          rw [Workspace.reservedStyles_of_get? hs] at hres
          exact hadds.unreserved hres
        obtain ⟨hwaiting, hnext⟩ := orderly_queued_adds hadds engine hfresh ho
        refine ⟨⟨?_, ?_⟩, hnext⟩
        · intro other hother
          rcases List.mem_append.1 (hwaiting ▸ hother) with hother | hother
          · exact kept other (hp.reserved other hother)
          · rw [List.mem_singleton.1 hother]
            exact reserved style hadds.reserve
        · intro other hother hdue
          have htail : other ∈ due id (_ ++ rest) := hdue
          rw [tasks] at htail
          obtain ⟨hdeferred, hdue⟩ := mem_due_queued htail
          rcases List.mem_append.1 (hwaiting ▸ hother) with hother | hother
          · exact hp.lasting other hother (hrest other hdue)
          · rw [List.mem_singleton.1 hother] at hdue
            refine hreckless ⟨hdeferred, style, cloned?_of_answer htasks ?_, hrest style hdue⟩
            unfold finish
            rw [tasks, outcomes_append, hadds.answer]
            rfl
      · obtain ⟨hwaiting, hnext⟩ := sound_queued_none hnone engine ho
        refine ⟨⟨?_, ?_⟩, hnext⟩
        · intro other hother
          exact kept other (hp.reserved other (hwaiting ▸ hother))
        · intro other hother hdue
          have htail : other ∈ due id (_ ++ rest) := hdue
          rw [tasks] at htail
          exact hp.lasting other (hwaiting ▸ hother) (hrest other (mem_due_queued htail).2)

/-! ## Steps of other commands -/

theorem reservedStyles_of_calm {w w' : Workspace} (h : Calm w w') (id : Nat) :
    w'.reservedStyles id = w.reservedStyles id := by
  have hcore := h.cores id
  unfold Workspace.reservedStyles
  cases hs : w.sessions.get? id with
  | none =>
      cases hs' : w'.sessions.get? id with
      | none => rfl
      | some s' => simp [hs, hs'] at hcore
  | some s =>
      cases hs' : w'.sessions.get? id with
      | none => simp [hs, hs'] at hcore
      | some s' =>
          simp only [hs, hs', Option.map_some, Option.some.injEq] at hcore
          simp [hcore]

theorem perform_of_calm {c : Command} (hc : c.bySession = true)
    (hedit : ∀ e, c ≠ .session (.edit e)) (hflush : c ≠ .engine .flush) (reply : Reply)
    (w : Workspace) : perform reply w c = ⟨[], (w.execute c).1, (w.execute c).2⟩ := by
  cases c with
  | engine c =>
      cases c with
      | flush => exact (hflush rfl).elim
      | setImmediate | ask => rfl
      | _ => simp [Command.bySession] at hc
  | session c =>
      cases c with
      | edit e => exact (hedit e rfl).elim
      | ask => rfl
      | _ => simp [Command.bySession] at hc
  | watchSession => rfl
  | _ => simp [Command.bySession] at hc

theorem sound_calm {a : Agenda} {c : Command} {rest : List Task} (hc : c.bySession = true)
    (htasks : a.tasks = .perform c :: rest) (hedit : ∀ e, c ≠ .session (.edit e))
    (hflush : c ≠ .engine .flush) (hp : Protected id a) (ho : Orderly a.workspace) :
    Protected id a.next ∧ Orderly a.next.workspace := by
  have hcalm := calm_execute hc hedit hflush a.workspace
  have hnext : a.next = Agenda.before
      ⟨[], (a.workspace.execute c).1, (a.workspace.execute c).2⟩ rest := by
    unfold next
    rw [htasks]
    exact congrArg (fun b => before b rest) (perform_of_calm hc hedit hflush _ _)
  rw [hnext]
  refine ⟨protected_before htasks (perform_ne_apply _) hcalm.pending (fun style hmem _ => ?_)
    (fun _ hpart => by cases hpart) hp, orderly_congr hcalm.pending hcalm.replica ho⟩
  rw [reservedStyles_of_calm hcalm]
  exact hmem

theorem sound_flush {a : Agenda} {rest : List Task}
    (htasks : a.tasks = .perform (.engine .flush) :: rest) (hp : Protected id a)
    (ho : Orderly a.workspace) : Protected id a.next ∧ Orderly a.next.workspace := by
  have hnext : a.next = ⟨.drain :: .answer .done :: rest, a.reply, a.workspace⟩ := by
    unfold next
    rw [htasks]
    rfl
  rw [hnext]
  exact ⟨⟨hp.reserved, fun _ _ h => by cases h⟩, ho⟩

/-! ## A whole run -/

/-- Only a reckless clone ends the protection of the styles that wait. -/
theorem sound_next {a : Agenda} (h : BySession id a) (hreckless : ¬ Reckless id a)
    (hp : Protected id a) (ho : Orderly a.workspace) :
    Protected id a.next ∧ Orderly a.next.workspace := by
  cases ht : a.tasks with
  | nil =>
      have hnext : a.next = a := by
        unfold next
        rw [ht]
      rw [hnext]
      exact ⟨hp, ho⟩
  | cons task rest =>
      by_cases hd : task.delivers = true
      · exact sound_deliver ht hd hp ho
      · cases task with
        | drain => exact sound_drain ht hp ho
        | shut => exact sound_shut ht hp ho
        | perform c =>
            have hc : c.bySession = true := h.within.commands c (by simp [ht])
            by_cases hedit : ∃ e, c = .session (.edit e)
            · obtain ⟨e, rfl⟩ := hedit
              exact sound_edit ht h.alone hreckless hp ho
            · by_cases hflush : c = .engine .flush
              · subst hflush
                exact sound_flush ht hp ho
              · exact sound_calm hc ht (fun e he => hedit ⟨e, he⟩) hflush hp ho
        | _ => exact (hd rfl).elim

/-- A reckless clone does end it. -/
theorem not_protected_of_reckless {a : Agenda} (h : BySession id a)
    (hreckless : Reckless id a) : ¬ Protected id a.next := by
  obtain ⟨hdeferred, style, hcloned, hdue⟩ := hreckless
  obtain ⟨e, rest, htasks, hcloning⟩ := cloning h.alone hcloned
  obtain ⟨member, definition, hengine⟩ := hcloning.batch
  intro hp
  rw [next_edit htasks] at hp
  have hwaiting : style ∈ (edit a.reply a.workspace e).workspace.waitingStyles := by
    rw [waitingStyles_queued hengine]
    exact List.mem_append_right _ List.mem_cons_self
  apply hp.lasting style hwaiting
  show style ∈ due id ((edit a.reply a.workspace e).tasks ++ rest)
  rw [hcloning.tasks, hdeferred]
  rw [htasks] at hdue
  exact hdue

theorem sound_after {a : Agenda} (h : BySession id a) (hp : Protected id a)
    (ho : Orderly a.workspace) {n : Nat} (hclean : ∀ k < n, ¬ Reckless id (a.after k)) :
    Protected id (a.after n) ∧ Orderly (a.after n).workspace := by
  induction n generalizing a with
  | zero => exact ⟨hp, ho⟩
  | succ n ih =>
      obtain ⟨hp', ho'⟩ := sound_next h (hclean 0 (Nat.succ_pos n)) hp ho
      exact ih (bySession_next h) hp' ho' fun k hk => hclean (k + 1) (Nat.succ_lt_succ hk)

theorem next_after (n : Nat) (a : Agenda) : (a.after n).next = a.after (n + 1) := by
  induction n generalizing a with
  | zero => rfl
  | succ n ih => exact ih a.next

/-- The waiting styles are protected just as long as no clone was reckless. -/
theorem protected_iff {a : Agenda} (h : BySession id a) (hp : Protected id a)
    (ho : Orderly a.workspace) (n : Nat) :
    (∀ k < n, ¬ Reckless id (a.after k)) ↔ ∀ k ≤ n, Protected id (a.after k) := by
  constructor
  · intro hclean k hk
    exact (sound_after h hp ho fun j hj => hclean j (Nat.lt_of_lt_of_le hj hk)).1
  · intro hprotected k hk hreckless
    apply not_protected_of_reckless (bySession_after h k) hreckless
    rw [next_after]
    exact hprotected (k + 1) hk

/-- A clone is never given the identifier of a style that the document has. It is not given
that of a style that waits in the queue either, as long as no clone before it was only queued
while a release of the identifier that it took was due; and just as long is every waiting style
reserved until it is applied. -/
theorem clones_fresh_unless_reckless {w : Workspace} {commands : List Command}
    (halone : w.Alone id) (hempty : w.engine.pending = [])
    (hcommands : ∀ c ∈ commands, c.bySession = true)
    (hobservers : ObserversGive (fun c => c.bySession = true) w) (n : Nat) :
    let a := (start commands w).after n
    let clean := ∀ k < n, ¬ Reckless id ((start commands w).after k)
    (∀ style, a.cloned? = some style →
      a.workspace.engine.document.styles.contains style = false ∧
        (clean → style ∉ a.workspace.waitingStyles)) ∧
    (clean ↔ ∀ k ≤ n, Protected id ((start commands w).after k)) ∧
    (a.tasks = [] → a.workspace = commands.foldl (fun w c => (w.execute c).2) w) := by
  have hstart : BySession id (start commands w) :=
    ⟨within_start hcommands hobservers, halone⟩
  have hp : Protected id (start commands w) := protected_of_empty hempty
  have ho : Orderly (start commands w).workspace := orderly_of_empty hempty
  refine ⟨?_, protected_iff hstart hp ho n, workspace_of_done⟩
  intro style hcloned
  obtain ⟨e, rest, htasks, hcloning⟩ := cloning (bySession_after hstart n).alone hcloned
  refine ⟨hcloning.absent, fun hclean hwaiting => ?_⟩
  have hsound := (sound_after hstart hp ho hclean).1
  exact hcloning.unreserved (hsound.reserved style hwaiting)

/-! ## A reservation that is lost -/

def ownStyle : Document :=
  ((({} : Document).addCommonStyle ⟨"Body"⟩ "Body").addCommonStyle ⟨"My_m"⟩ "My").addParagraph
    "one" ⟨"My_m"⟩

def openedAlone : Workspace :=
  ([.engine (.register "doc" ownStyle), .engine (.load "doc"),
    .engine (.enqueue [.addCursor ⟨"m"⟩]), .engine .flush,
    .newSession { member := ⟨"m"⟩ }] : List Command).foldl (fun w c => (w.execute c).2) {}

/-- The style is deleted; those who watch clone another one under its name, once when the
paragraph changes and once more when the deletion is reported. -/
def watchedDeletion : List Command :=
  let clone : Command := .session (.edit (.cloneStyle ⟨"Body"⟩ "My"))
  [.watchSession .paragraphChanged "paragraph" [clone] 1,
    .watchSession .styleDeleted "deleted" [clone] 1,
    .session (.edit (.deleteStyle ⟨"My_m"⟩)), .engine .flush]

theorem openedAlone_alone : openedAlone.Alone 0 where
  standalone := by decide +kernel
  editor := Option.isNone_iff_eq_none.1 (by decide +kernel)

theorem openedAlone_observers {allowed : Command → Prop} : ObserversGive allowed openedAlone := by
  have hnone : openedAlone.observers.toList.isEmpty = true := by decide +kernel
  intro id o ho
  have hmem := (Dict.get?_eq_some_iff_mem _ _ _).1 ho
  rw [List.isEmpty_iff.1 hnone] at hmem
  cases hmem

theorem watchedDeletion_bySession : ∀ c ∈ watchedDeletion, c.bySession = true := by decide

/-- The first of the two clones, which is the reckless one, is still given a fresh
identifier. -/
theorem clones_fresh_at_deletion :
    let a := (start watchedDeletion openedAlone).after 11
    a.cloned? = some ⟨"My_m"⟩ ∧ a.workspace.engine.document.styles.contains ⟨"My_m"⟩ = false ∧
      ⟨"My_m"⟩ ∉ a.workspace.waitingStyles := by
  have hcloned : ((start watchedDeletion openedAlone).after 11).cloned? = some ⟨"My_m"⟩ := by
    decide +kernel
  have hquiet : ∀ k < 11, ((start watchedDeletion openedAlone).after k).cloned? = none := by
    decide +kernel
  have hclean : ∀ k < 11, ¬ Reckless 0 ((start watchedDeletion openedAlone).after k) := by
    rintro k hk ⟨-, style, hstyle, -⟩
    rw [hquiet k hk] at hstyle
    cases hstyle
  have hfresh := (clones_fresh_unless_reckless openedAlone_alone
    (List.isEmpty_iff.1 (by decide +kernel)) watchedDeletion_bySession openedAlone_observers
    11).1 _ hcloned
  exact ⟨hcloned, hfresh.1, hfresh.2 hclean⟩

/-- The second one is given the identifier of the first, whose style still waits. -/
theorem clone_of_waiting_style :
    openedAlone.Alone 0 ∧ openedAlone.engine.pending.isEmpty = true ∧
      (∀ c ∈ watchedDeletion, c.bySession = true) ∧
      let a := (start watchedDeletion openedAlone).after 23
      a.cloned? = some ⟨"My_m"⟩ ∧ ⟨"My_m"⟩ ∈ a.workspace.waitingStyles :=
  ⟨openedAlone_alone, by decide +kernel, watchedDeletion_bySession, by decide +kernel,
    by decide +kernel⟩

end Coedit.Agenda
