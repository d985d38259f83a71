import Coedit.Proofs.Engine.Geometry
import Coedit.Proofs.Session.Staleness

/-!
# The tracked paragraph

A session hears the events of a batch when the whole batch was applied, so an event about the
local cursor may be out of date: the cursor may have moved on or be gone. What an event makes of
the tracked paragraph therefore depends on where the cursor is at the end. The invariant goes
through the operations of a batch with that end in view.
-/

namespace Coedit

/-- The paragraph under a member's cursor; none without a cursor, or if the cursor is in no
paragraph. -/
def Replica.place? (r : Replica) (member : MemberId) : Option ParagraphRef :=
  ((r.cursors.get? member).bind fun c => r.document.paragraphAt? c.position).map (·.paragraph)

theorem Replica.place?_congr {r r' : Replica} {member : MemberId}
    (hcursor : r'.cursors.get? member = r.cursors.get? member)
    (hlayout : r'.document.layout = r.document.layout) : r'.place? member = r.place? member := by
  unfold Replica.place?
  rw [hcursor, Option.map_bind, Option.map_bind]
  congr 1
  funext c
  simp only [Function.comp, Document.paragraphAt?_eq_locate, hlayout]

theorem Replica.place?_of_absent {r : Replica} {member : MemberId}
    (h : r.cursors.get? member = none) : r.place? member = none := by
  rw [Replica.place?, h]
  rfl

namespace SessionCore

/-- What an event makes of the paragraph that a member's session tracks, if the member's cursor
is in `target` now. -/
def steer (member : MemberId) (target tracked : Option ParagraphRef) :
    EngineEvent → Option ParagraphRef
  | .memberRemoved m | .cursorRemoved m => if m = member then none else tracked
  | .cursorAdded m | .cursorMoved m => if m = member then target.or tracked else tracked
  | _ => tracked

/-! ## One event -/

theorem currentParagraph_followCursor (s : SessionCore) (r : Replica) :
    (s.react r .followCursor).1.tracker.currentParagraph =
      (r.place? s.member).or s.tracker.currentParagraph := by
  unfold react Replica.place? cursor?
  cases (r.cursors.get? s.member).bind fun c => r.document.paragraphAt? c.position with
  | none => rfl
  | some info => rfl

/-- Looking at the tracked paragraph again does not change which one it is. -/
theorem currentParagraph_recheck (s : SessionCore) (r : Replica) :
    (s.react r .recheck).1.tracker.currentParagraph = s.tracker.currentParagraph := by
  unfold react
  cases hinfo : s.tracker.currentParagraph.bind r.document.paragraph? with
  | none => rfl
  | some info =>
      obtain ⟨p, hp, hfound⟩ := Option.bind_eq_some_iff.1 hinfo
      have hsame : info.paragraph = p := Document.paragraph_of_paragraph? hfound
      rw [hp, ← hsame]
      rfl

theorem currentParagraph_hear (s : SessionCore) (r : Replica) (event : EngineEvent) :
    (s.hear r event).tracker.currentParagraph =
      steer s.member (r.place? s.member) s.tracker.currentParagraph event := by
  cases event with
  | memberRemoved m | cursorRemoved m =>
      by_cases hlocal : m = s.member
      · simp only [hear, reactions, ifLocal, isLocal, steer, hlocal, beq_self_eq_true, if_true]
        rfl
      · simp only [hear, reactions, ifLocal, isLocal, steer, beq_iff_eq, hlocal, if_false]
        rfl
  | cursorAdded m | cursorMoved m =>
      by_cases hlocal : m = s.member
      · simp only [hear, reactions, ifLocal, isLocal, steer, hlocal, beq_self_eq_true, if_true]
        exact currentParagraph_followCursor s r
      · simp only [hear, reactions, ifLocal, isLocal, steer, beq_iff_eq, hlocal, if_false]
        rfl
  | paragraphChanged p m =>
      simp only [hear, reactions, steer]
      split
      · exact currentParagraph_recheck s r
      · rfl
  | _ => rfl

theorem currentParagraph_hearAll (s : SessionCore) (r : Replica) (events : List EngineEvent) :
    (events.foldl (hear r) s).tracker.currentParagraph =
      events.foldl (steer s.member (r.place? s.member)) s.tracker.currentParagraph := by
  induction events generalizing s with
  | nil => rfl
  | cons event rest ih =>
      have hrest := ih (s.hear r event)
      rw [member_hear, currentParagraph_hear] at hrest
      exact hrest

theorem member_hearAll (r : Replica) (s : SessionCore) (events : List EngineEvent) :
    (events.foldl (hear r) s).member = s.member := by
  induction events generalizing s with
  | nil => rfl
  | cons event rest ih => exact (ih (s.hear r event)).trans (member_hear r s event)

/-- Hearing of an event more than once is the same as hearing of it once. -/
theorem steer_steer (member : MemberId) (target tracked : Option ParagraphRef)
    (event : EngineEvent) :
    steer member target (steer member target tracked event) event =
      steer member target tracked event := by
  cases event with
  | memberRemoved m | cursorRemoved m =>
      simp only [steer]
      split <;> rfl
  | cursorAdded m | cursorMoved m =>
      simp only [steer]
      split
      · cases target <;> rfl
      · rfl
  | _ => rfl

theorem steer_repeated (member : MemberId) (target tracked : Option ParagraphRef)
    (event : EngineEvent) (count : Nat) :
    (List.replicate (count + 1) event).foldl (steer member target) tracked =
      steer member target tracked event := by
  induction count with
  | zero => rfl
  | succ count ih =>
      rw [List.replicate_succ', List.foldl_append, ih]
      exact steer_steer member target tracked event

/-! ## The operations of a batch -/

/-- In the midst of a batch: nothing is tracked without a cursor, and a cursor that is already
where it will be at the end is tracked there. -/
structure Aligned (member : MemberId) (target : Option ParagraphRef) (r : Replica)
    (tracked : Option ParagraphRef) : Prop where
  absent : r.cursors.get? member = none → tracked = none
  present : ∀ p, r.place? member = some p → target = some p → tracked = some p

section Aligned

variable {member : MemberId} {target tracked : Option ParagraphRef} {r r' : Replica}
  {events : List EngineEvent}

theorem steerAll_of_idle
    (h : ∀ event ∈ events, ∀ tracked, steer member target tracked event = tracked) :
    events.foldl (steer member target) tracked = tracked := by
  induction events generalizing tracked with
  | nil => rfl
  | cons event rest ih =>
      rw [List.foldl_cons, h event List.mem_cons_self]
      exact ih fun other hmem => h other (List.mem_cons_of_mem _ hmem)

theorem Aligned.congr (h : Aligned member target r tracked)
    (hcursor : r'.cursors.get? member = r.cursors.get? member)
    (hlayout : r'.document.layout = r.document.layout) : Aligned member target r' tracked := by
  have hplace : r'.place? member = r.place? member := Replica.place?_congr hcursor hlayout
  exact ⟨fun hnone => h.absent (hcursor ▸ hnone), fun p hp => h.present p (hplace ▸ hp)⟩

/-- What leaves the cursor where it is, and is not announced as its doing. -/
theorem Aligned.idle (h : Aligned member target r tracked)
    (hcursor : r'.cursors.get? member = r.cursors.get? member)
    (hlayout : r'.document.layout = r.document.layout)
    (hevents : ∀ event ∈ events, ∀ tracked, steer member target tracked event = tracked) :
    Aligned member target r' (events.foldl (steer member target) tracked) := by
  rw [steerAll_of_idle hevents]
  exact h.congr hcursor hlayout

theorem Aligned.idle_single (h : Aligned member target r tracked)
    (hcursor : r'.cursors.get? member = r.cursors.get? member)
    (hlayout : r'.document.layout = r.document.layout) {event : EngineEvent}
    (hsingle : events = [event]) (hevent : ∀ tracked, steer member target tracked event = tracked) :
    Aligned member target r' (events.foldl (steer member target) tracked) := by
  refine h.idle hcursor hlayout fun other hmem => ?_
  rw [hsingle] at hmem
  rw [List.mem_singleton.1 hmem]
  exact hevent

theorem Aligned.removeCursor (h : Aligned member target r tracked) (m : MemberId) :
    Aligned member target (r.removeCursor m).1
      ((r.removeCursor m).2.foldl (steer member target) tracked) := by
  unfold Replica.removeCursor
  split
  · show Aligned member target { r with cursors := r.cursors.erase m }
      ([EngineEvent.cursorRemoved m].foldl (steer member target) tracked)
    by_cases hlocal : m = member
    · have hgone : (r.cursors.erase m).get? member = none := by
        rw [Dict.get?_erase, if_pos hlocal]
      have hreset : [EngineEvent.cursorRemoved m].foldl (steer member target) tracked = none := by
        simp [steer, hlocal]
      have hplace : Replica.place? { r with cursors := r.cursors.erase m } member = none :=
        Replica.place?_of_absent hgone
      rw [hreset]
      refine ⟨fun _ => rfl, fun p hp => ?_⟩
      rw [hplace] at hp
      cases hp
    · have hcursor : (r.cursors.erase m).get? member = r.cursors.get? member := by
        rw [Dict.get?_erase, if_neg hlocal]
      exact h.idle_single hcursor rfl rfl fun _ => if_neg hlocal
  · exact h

/-- A member can go when the member's cursor is gone. -/
theorem Aligned.removeRecord (h : Aligned member target r tracked) {m : MemberId}
    (hgone : r.cursors.get? m = none) : Aligned member target (r.removeRecord m).1
      ((r.removeRecord m).2.foldl (steer member target) tracked) := by
  unfold Replica.removeRecord
  split
  · show Aligned member target { r with members := r.members.erase m }
      ([EngineEvent.memberRemoved m].foldl (steer member target) tracked)
    have hsame : [EngineEvent.memberRemoved m].foldl (steer member target) tracked = tracked := by
      by_cases hlocal : m = member
      · have huntracked : tracked = none := h.absent (hlocal ▸ hgone)
        simp [steer, huntracked]
      · simp [steer, hlocal]
    rw [hsame]
    exact h.congr rfl rfl
  · exact h

/-- A cursor that was put somewhere, which is announced, is tracked if it stays there. -/
theorem Aligned.placed (h : Aligned member target r tracked) {m : MemberId}
    {cursors : Dict MemberId Cursor} {event : EngineEvent}
    (hevent : event = .cursorAdded m ∨ event = .cursorMoved m)
    (hput : (cursors.get? m).isSome = true)
    (hothers : m ≠ member → cursors.get? member = r.cursors.get? member) :
    Aligned member target { r with cursors } ([event].foldl (steer member target) tracked) := by
  have hsteer : steer member target tracked event =
      if m = member then target.or tracked else tracked := by
    rcases hevent with rfl | rfl <;> rfl
  rw [List.foldl_cons, List.foldl_nil, hsteer]
  by_cases hlocal : m = member
  · rw [if_pos hlocal]
    refine ⟨fun hnone => ?_, fun p _ htarget => by rw [htarget]; rfl⟩
    rw [hlocal, show cursors.get? member = none from hnone] at hput
    cases hput
  · rw [if_neg hlocal]
    have hplace : Replica.place? { r with cursors } member = r.place? member :=
      Replica.place?_congr (hothers hlocal) rfl
    refine ⟨fun hnone => h.absent ((hothers hlocal).symm.trans hnone), fun p hp => ?_⟩
    exact h.present p (hplace ▸ hp)

theorem get?_removeCursor (r : Replica) (m : MemberId) :
    (r.removeCursor m).1.cursors.get? m = none := by
  unfold Replica.removeCursor
  split
  · rw [Dict.get?_erase, if_pos rfl]
  · rename_i habsent
    exact Option.not_isSome_iff_eq_none.1 habsent

theorem Aligned.apply (h : Aligned member target r tracked) (op : Operation) :
    Aligned member target (r.apply op).1 ((r.apply op).2.foldl (steer member target) tracked) := by
  have hlayout := Replica.layout_apply r op
  cases op with
  | addMember m properties =>
      refine h.idle_single rfl rfl rfl fun tracked => ?_
      split <;> rfl
  | removeMember m =>
      have hboth := (h.removeCursor m).removeRecord (get?_removeCursor r m)
      rw [← List.foldl_append] at hboth
      exact hboth
  | addCursor m =>
      have hput : ((r.cursors.insert m (.initial m)).get? m).isSome = true := by
        rw [Dict.get?_insert_self]
        rfl
      exact h.placed (.inl rfl) hput fun hother => by rw [Dict.get?_insert, if_neg hother]
  | removeCursor m => exact h.removeCursor m
  | moveCursor m position anchor kind =>
      simp only [Replica.apply]
      split
      · rename_i hcontains
        refine h.placed (.inr rfl) ?_ fun hother => by rw [Dict.get?_modify, if_neg hother]
        rw [Dict.get?_modify, if_pos rfl, Option.isSome_map]
        exact hcontains
      · exact h
  | setParagraphStyle m paragraph position style =>
      simp only [Replica.apply] at hlayout ⊢
      split
      · rename_i hany
        rw [if_pos hany] at hlayout
        exact h.idle_single rfl hlayout rfl fun _ => rfl
      · exact h
  | addStyle m style family properties => exact h.idle_single rfl rfl rfl fun _ => rfl
  | removeStyle m style family =>
      simp only [Replica.apply] at hlayout ⊢
      split
      · rename_i hcontains
        rw [if_pos hcontains] at hlayout
        refine h.idle rfl hlayout fun event hmem tracked => ?_
        rcases List.mem_append.1 hmem with hchanged | hdeleted
        · obtain ⟨p, -, rfl⟩ := List.mem_map.1 hchanged
          rfl
        · rw [List.mem_singleton.1 hdeleted]
          rfl
      · exact h
  | updateParagraphStyle m style set removed =>
      simp only [Replica.apply] at hlayout ⊢
      split
      · rename_i hdefines
        rw [if_pos hdefines] at hlayout
        exact h.idle_single rfl hlayout rfl fun _ => rfl
      · exact h
  | insertStructuredContent m position content =>
      refine h.idle rfl rfl fun event hmem tracked => ?_
      simp only [Replica.apply] at hmem
      split at hmem
      · rw [List.mem_singleton.1 hmem]
        rfl
      · cases hmem
  | updateMetadata m set removed => exact h.idle_single rfl rfl rfl fun _ => rfl

theorem Aligned.applyAll (h : Aligned member target r tracked) (batch : Batch) :
    Aligned member target (r.applyAll batch).1
      ((r.applyAll batch).2.foldl (steer member target) tracked) := by
  induction batch generalizing r tracked with
  | nil => exact h
  | cons op rest ih =>
      have hrest := ih (h.apply op)
      rw [← List.foldl_append] at hrest
      exact hrest

theorem Aligned.applyBatch (h : Aligned member target r tracked) (batch : Batch) :
    Aligned member target (r.applyBatch batch).1
      ((r.applyBatch batch).2.foldl (steer member target) tracked) := by
  have hall := h.applyAll batch
  unfold Replica.applyBatch
  simp only
  split
  · rw [List.foldl_append]
    exact hall
  · exact hall

end Aligned

/-! ## A run of batches -/

structure AtCursor (s : SessionCore) (r : Replica) : Prop where
  absent : r.cursors.get? s.member = none → s.tracker.currentParagraph = none
  present : ∀ p, r.place? s.member = some p → s.tracker.currentParagraph = some p

theorem AtCursor.congr {s s' : SessionCore} {r : Replica} (h : s.AtCursor r)
    (halike : Alike s s') : s'.AtCursor r := by
  constructor
  · rw [halike.member, halike.tracker]
    exact h.absent
  · rw [halike.member, halike.tracker]
    exact h.present

/-- Nothing is tracked at first, which is right without a cursor. -/
theorem atCursor_first {member : MemberId} {r : Replica} (h : r.cursors.get? member = none) :
    (Sight.first member r).core.AtCursor r := by
  refine ⟨fun _ => rfl, fun p hp => ?_⟩
  have hnowhere : r.place? member = none := Replica.place?_of_absent h
  rw [Sight.first, hnowhere] at hp
  cases hp

variable {heard : List EngineEvent → List EngineEvent}

/-- The session is steered by what it hears as it would be by all events, each once. -/
def Steered (heard : List EngineEvent → List EngineEvent) : Prop :=
  ∀ member target tracked events,
    (heard events).foldl (steer member target) tracked = events.foldl (steer member target) tracked

theorem AtCursor.follow {s : SessionCore} {r : Replica} (hheard : Steered heard)
    (h : s.AtCursor r) (batch : Batch) :
    (follow heard (s, r) batch).1.AtCursor (follow heard (s, r) batch).2 := by
  have hbefore : Aligned s.member ((r.applyBatch batch).1.place? s.member) r
      s.tracker.currentParagraph := ⟨h.absent, fun p hp _ => h.present p hp⟩
  have hafter := hbefore.applyBatch batch
  have htracked : (SessionCore.follow heard (s, r) batch).1.tracker.currentParagraph =
      (r.applyBatch batch).2.foldl (steer s.member ((r.applyBatch batch).1.place? s.member))
        s.tracker.currentParagraph := by
    rw [← hheard]
    exact currentParagraph_hearAll s (r.applyBatch batch).1 _
  have hmember : (SessionCore.follow heard (s, r) batch).1.member = s.member :=
    member_hearAll (r.applyBatch batch).1 s _
  rw [← htracked] at hafter
  constructor
  · rw [hmember]
    exact hafter.absent
  · rw [hmember]
    exact fun p hp => hafter.present p hp hp

theorem member_run (v : Sight) (batches : List Batch) :
    (batches.foldl (Sight.follow heard) v).core.member = v.core.member := by
  induction batches generalizing v with
  | nil => rfl
  | cons batch rest ih => exact (ih (v.follow heard batch)).trans (member_hearAll _ v.core _)

theorem AtCursor.run {v : Sight} (hheard : Steered heard) (h : v.core.AtCursor v.replica)
    (batches : List Batch) :
    (batches.foldl (Sight.follow heard) v).core.AtCursor
      (batches.foldl (Sight.follow heard) v).replica := by
  induction batches generalizing v with
  | nil => exact h
  | cons batch rest ih => exact ih (v := v.follow heard batch) (h.follow hheard batch)

end SessionCore

namespace Workspace

open SessionCore (steer)

/-! ## What a session hears -/

/-- A session that hears all that sessions relay hears of every event that steers it, possibly
several times. -/
theorem steered_heardBy {bus : SignalBus EngineSignal EngineListener} {id : Nat}
    (h : ∀ signal ∈ relayedSignals, .session id ∈ bus.handlers signal) :
    SessionCore.Steered (heardBy bus id) := by
  intro member target tracked events
  induction events generalizing tracked with
  | nil => rfl
  | cons event rest ih =>
      unfold heardBy at ih ⊢
      rw [List.flatMap_cons, List.foldl_append, List.foldl_cons, ih, List.map_const']
      congr 1
      by_cases hrelayed : event.signal ∈ relayedSignals
      · have hmem : EngineListener.session id ∈
            (bus.handlers event.signal).filter (· = .session id) :=
          List.mem_filter.2 ⟨h event.signal hrelayed, by simp⟩
        obtain ⟨count, hcount⟩ := Nat.exists_eq_succ_of_ne_zero
          (Nat.pos_iff_ne_zero.1 (List.length_pos_of_mem hmem))
        rw [hcount]
        exact SessionCore.steer_repeated member target tracked event count
      · have hidle : ∀ tracked, steer member target tracked event = tracked := by
          intro tracked
          cases event with
          | metadataChanged set removed => rfl
          | _ => exact absurd (by simp [relayedSignals, EngineEvent.signal]) hrelayed
        rw [hidle]
        exact SessionCore.steerAll_of_idle fun other hmem tracked => by
          rw [List.eq_of_mem_replicate hmem, hidle]

theorem steered_createSession {spec : SessionSpec} {features : FeatureSet} {w w' : Workspace}
    {id : Nat} (h : w.createSession spec features = (.ok id, w')) :
    SessionCore.Steered (heardBy w'.engine.bus id) := by
  obtain ⟨engine, made, log, rfl, rfl, hsubscribed⟩ := createSession_spec h
  exact steered_heardBy hsubscribed.hears

/-! ## Runs -/

/-- A session that was created before its member had a cursor tracks, after every flush, the
paragraph that the cursor is in, and none without a cursor. -/
theorem tracked_paragraph_at_cursor {w₀ w : Workspace} {spec : SessionSpec}
    {features : FeatureSet} {id : Nat} {after : List Command} (hquiet : w₀.Quiet)
    (hcursor : w₀.engine.replica.cursors.get? spec.member = none)
    (hcreate : w₀.createSession spec features = (.ok id, w))
    (hafter : ∀ c ∈ after, c.submits = true) :
    let w' := ((after.foldl (fun w c => (w.execute c).2) w).execute (.engine .flush)).2
    ∃ s, w'.sessions.get? id = some s ∧ s.core.member = spec.member ∧
      (w'.engine.replica.cursors.get? spec.member = none →
        s.core.tracker.currentParagraph = none) ∧
      ∀ c, w'.engine.replica.cursors.get? spec.member = some c →
        ∀ span ∈ w'.engine.document.spans, span.start ≤ c.position → c.position ≤ span.stop →
          s.core.tracker.currentParagraph = some span.paragraph.id := by
  intro w'
  obtain ⟨hfollows, -⟩ := follows_createSession hcreate
  obtain ⟨hquiet', hreplica⟩ := unchanged_createSession hcreate
  have hcursor' : w.engine.replica.cursors.get? spec.member = none := by
    rw [hreplica]
    exact hcursor
  obtain ⟨accepted, -, hrun⟩ := follows_run hafter (hquiet' hquiet) hfollows
  obtain ⟨core, ⟨s, hs, -, rfl⟩, halike⟩ := hrun.known
  have hat := (SessionCore.atCursor_first hcursor').run (steered_createSession hcreate)
    (w.engine.pending ++ accepted)
  have hnow : s.core.AtCursor w'.engine.replica := by
    rw [show w'.engine.replica = _ from hrun.replica]
    exact hat.congr halike
  have hmember : s.core.member = spec.member := by
    rw [halike.member]
    exact SessionCore.member_run _ _
  refine ⟨s, hs, hmember, ?_, ?_⟩
  · rw [← hmember]
    exact hnow.absent
  · intro c hc span hspan hstart hstop
    have hfound : w'.engine.replica.document.paragraphAt? c.position = some span.info :=
      Document.paragraphAt?_of_mem_spans hspan hstart hstop
    have hplace : w'.engine.replica.place? s.core.member = some span.paragraph.id := by
      rw [Replica.place?, hmember, hc, Option.bind_some, hfound]
      rfl
    exact hnow.present _ hplace

def withTwoParagraphs : Workspace :=
  { engine := ({} : Engine EngineListener).openDocument <|
      .build [.paragraph "one" .default, .paragraph "two" .default] }

def sessionOnTwo : Workspace := (withTwoParagraphs.createSession { member := ⟨"m"⟩ } .all).2

/-- The cursor comes, goes and comes back twice in one batch, and ends in the second
paragraph. -/
def restlessCursor : List Command :=
  [.engine (.enqueue [.addMember ⟨"m"⟩ {}, .addCursor ⟨"m"⟩]),
    .engine .flush,
    .engine (.enqueue [.removeMember ⟨"m"⟩, .addCursor ⟨"m"⟩, .removeCursor ⟨"m"⟩, .addCursor ⟨"m"⟩,
      .moveCursor ⟨"m"⟩ 5 5 .collapsed])]

/-- The session ends up in the second paragraph as well. -/
theorem tracked_paragraph_of_restless_cursor :
    let w := ((restlessCursor.foldl (fun w c => (w.execute c).2) sessionOnTwo).execute
      (.engine .flush)).2
    ∃ s, w.sessions.get? 0 = some s ∧ s.core.tracker.currentParagraph = some 2 := by
  intro w
  have hquiet : withTwoParagraphs.Quiet := fun _ _ h => by cases h
  have hcreate : withTwoParagraphs.createSession { member := ⟨"m"⟩ } .all = (.ok 0, sessionOnTwo) :=
    Prod.ext rfl rfl
  have hafter : ∀ c ∈ restlessCursor, c.submits = true := by decide
  obtain ⟨s, hs, -, -, hpresent⟩ := tracked_paragraph_at_cursor hquiet rfl hcreate hafter
  have hcursor : w.engine.replica.cursors.get? ⟨"m"⟩ =
      some { member := ⟨"m"⟩, position := 5, anchor := 5, selectionKind := .collapsed } := by
    decide +kernel
  obtain ⟨span, hspan, hstart, hstop, hsecond⟩ :
      ∃ span ∈ w.engine.document.spans, span.start ≤ 5 ∧ 5 ≤ span.stop ∧ span.paragraph.id = 2 := by
    decide +kernel
  exact ⟨s, hs, hsecond ▸ hpresent _ hcursor span hspan hstart hstop⟩

end Workspace

end Coedit
