import Coedit.Proofs.Engine.Paragraphs
import Coedit.Proofs.Session.Creation
import Coedit.Proofs.Session.Following

/-!
# The tracked style

A session tracks a paragraph together with the common style that it resolves to. It looks
again when the paragraph is reported as changed and when the local member or its cursor is
reported as coming, going or moving, but not when styles are created or deleted. So the tracked
style goes stale just when a batch changes what the tracked paragraph resolves to and reports
nothing that makes the session look; and such a batch adds or removes a style.
-/

namespace Coedit

namespace SessionCore

/-- The tracked style, if there is one, is what the tracked paragraph resolves to. -/
def Accurate (s : SessionCore) (r : Replica) : Prop :=
  ∀ current, s.tracker.current = some current → r.resolved? current.paragraph = some current.style

def looks (s : SessionCore) (r : Replica) : EngineEvent → Bool
  | .memberRemoved m | .cursorRemoved m => s.isLocal m
  | .cursorAdded m | .cursorMoved m =>
    s.isLocal m && ((s.cursor? r).bind fun c => r.document.paragraphAt? c.position).isSome
  | .paragraphChanged p _ =>
    s.concerns r p && (s.tracker.currentParagraph.bind r.document.paragraph?).isSome
  | _ => false

/-! ## One reaction -/

theorem accurate_observe {s : SessionCore} {r : Replica} {info : ParagraphInfo}
    (h : r.document.paragraph? info.paragraph = some info) :
    (s.observe r info).1.Accurate r := by
  intro current hcurrent
  simp only [observe, StyleTracker.observe, Option.some.injEq] at hcurrent
  subst hcurrent
  simp only [Replica.resolved?, h, Option.map_some]

theorem accurate_of_untracked {s : SessionCore} {r : Replica} (h : s.tracker.current = none) :
    s.Accurate r := by
  intro current hcurrent
  rw [h] at hcurrent
  cases hcurrent

theorem accurate_congr {s s' : SessionCore} {r : Replica}
    (h : s'.tracker.current = s.tracker.current) (ha : s.Accurate r) : s'.Accurate r := by
  intro current hcurrent
  exact ha current (h ▸ hcurrent)

/-- A reaction leaves the tracker as it is, or makes it accurate. -/
theorem tracker_react {r : Replica} (hdistinct : r.document.Distinct) (s : SessionCore)
    (reaction : Reaction) :
    (s.react r reaction).1.tracker = s.tracker ∨ (s.react r reaction).1.Accurate r := by
  cases reaction with
  | announce | release => exact .inl rfl
  | resetTracker => exact .inr (accurate_of_untracked rfl)
  | followCursor =>
      simp only [react]
      split
      · rename_i info hinfo
        obtain ⟨cursor, -, hat⟩ := Option.bind_eq_some_iff.1 hinfo
        exact .inr (accurate_observe (Document.paragraph?_of_paragraphAt? hdistinct hat))
      · exact .inl rfl
  | recheck =>
      simp only [react]
      split
      · rename_i info hinfo
        obtain ⟨p, -, hp⟩ := Option.bind_eq_some_iff.1 hinfo
        refine .inr (accurate_observe ?_)
        rw [Document.paragraph_of_paragraph? hp]
        exact hp
      · exact .inl rfl

theorem accurate_react {r : Replica} (hdistinct : r.document.Distinct) {s : SessionCore}
    (h : s.Accurate r) (reaction : Reaction) : (s.react r reaction).1.Accurate r := by
  rcases tracker_react hdistinct s reaction with hsame | haccurate
  · exact accurate_congr (by rw [hsame]) h
  · exact haccurate

theorem accurate_reactions {r : Replica} (hdistinct : r.document.Distinct) {s : SessionCore}
    (h : s.Accurate r) (reactions : List Reaction) :
    (reactions.foldl (fun s reaction => (s.react r reaction).1) s).Accurate r := by
  induction reactions generalizing s with
  | nil => exact h
  | cons reaction rest ih => exact ih (accurate_react hdistinct h reaction)

/-! ## One event -/

theorem accurate_hear {r : Replica} (hdistinct : r.document.Distinct) {s : SessionCore}
    (h : s.Accurate r) (event : EngineEvent) : (s.hear r event).Accurate r :=
  accurate_reactions hdistinct h _

theorem tracker_react_followCursor {s : SessionCore} {r : Replica}
    (h : ((s.cursor? r).bind fun c => r.document.paragraphAt? c.position) = none) :
    (s.react r .followCursor).1.tracker = s.tracker := by
  simp only [react, h]

theorem accurate_followCursor {s : SessionCore} {r : Replica} (hdistinct : r.document.Distinct)
    (h : ((s.cursor? r).bind fun c => r.document.paragraphAt? c.position).isSome = true) :
    (s.react r .followCursor).1.Accurate r := by
  obtain ⟨info, hinfo⟩ := Option.isSome_iff_exists.1 h
  obtain ⟨cursor, -, hat⟩ := Option.bind_eq_some_iff.1 hinfo
  simp only [react, hinfo]
  exact accurate_observe (Document.paragraph?_of_paragraphAt? hdistinct hat)

theorem accurate_recheck {s : SessionCore} {r : Replica}
    (h : (s.tracker.currentParagraph.bind r.document.paragraph?).isSome = true) :
    (s.react r .recheck).1.Accurate r := by
  obtain ⟨info, hinfo⟩ := Option.isSome_iff_exists.1 h
  obtain ⟨p, -, hp⟩ := Option.bind_eq_some_iff.1 hinfo
  simp only [react, hinfo]
  exact accurate_observe (by rw [Document.paragraph_of_paragraph? hp]; exact hp)

/-- An event that makes the session look leaves the tracker accurate. -/
theorem accurate_of_looks {s : SessionCore} {r : Replica} {event : EngineEvent}
    (hdistinct : r.document.Distinct) (h : s.looks r event = true) :
    (s.hear r event).Accurate r := by
  cases event with
  | memberRemoved m =>
      have hlocal : s.isLocal m = true := h
      simp only [hear, reactions, ifLocal, hlocal, if_true]
      exact accurate_of_untracked rfl
  | cursorRemoved m =>
      have hlocal : s.isLocal m = true := h
      simp only [hear, reactions, ifLocal, hlocal, if_true]
      exact accurate_of_untracked rfl
  | cursorAdded m =>
      obtain ⟨hlocal, hat⟩ := Bool.and_eq_true_iff.1 h
      simp only [hear, reactions, ifLocal, hlocal, if_true]
      exact accurate_followCursor hdistinct hat
  | cursorMoved m =>
      obtain ⟨hlocal, hat⟩ := Bool.and_eq_true_iff.1 h
      simp only [hear, reactions, ifLocal, hlocal, if_true]
      exact accurate_followCursor hdistinct hat
  | paragraphChanged p m =>
      obtain ⟨hconcerns, hp⟩ := Bool.and_eq_true_iff.1 h
      simp only [hear, reactions, hconcerns, if_true]
      exact accurate_recheck hp
  | _ => cases h

/-- Any other event leaves the tracker as it is. -/
theorem tracker_of_not_looks {s : SessionCore} {r : Replica} {event : EngineEvent}
    (h : s.looks r event = false) : (s.hear r event).tracker = s.tracker := by
  cases event with
  | memberRemoved m | cursorRemoved m =>
      have hlocal : s.isLocal m = false := h
      simp only [hear, reactions, ifLocal, hlocal, Bool.false_eq_true, if_false]
      rfl
  | cursorAdded m | cursorMoved m =>
      simp only [hear, reactions, ifLocal]
      cases hlocal : s.isLocal m with
      | false => rfl
      | true =>
          simp only [looks, hlocal, Bool.true_and] at h
          have hnone : ((s.cursor? r).bind fun c => r.document.paragraphAt? c.position) = none :=
            Option.not_isSome_iff_eq_none.1 (by rw [h]; decide)
          exact tracker_react_followCursor hnone
  | paragraphChanged p m =>
      simp only [hear, reactions]
      cases hconcerns : s.concerns r p with
      | false => rfl
      | true =>
          simp only [looks, hconcerns, Bool.true_and] at h
          have hnone : s.tracker.currentParagraph.bind r.document.paragraph? = none :=
            Option.not_isSome_iff_eq_none.1 (by rw [h]; decide)
          show (s.react r .recheck).1.tracker = s.tracker
          simp only [react, hnone]
  | _ => rfl

/-! ## One batch -/

/-- What a session looks at depends on its member and on what it tracks. -/
theorem looks_congr {s s' : SessionCore} (hmember : s'.member = s.member)
    (htracker : s'.tracker = s.tracker) (r : Replica) (event : EngineEvent) :
    s'.looks r event = s.looks r event := by
  unfold looks concerns isLocal cursor?
  rw [hmember, htracker]

theorem member_hear (r : Replica) (s : SessionCore) (event : EngineEvent) :
    (s.hear r event).member = s.member := by
  unfold hear
  suffices h : ∀ (l : List Reaction) (s : SessionCore),
      (l.foldl (fun s reaction => (s.react r reaction).1) s).member = s.member from h _ s
  intro l
  induction l with
  | nil => exact fun _ => rfl
  | cons reaction rest ih => exact fun s => (ih _).trans (member_react s r reaction)

theorem accurate_hearAll {r : Replica} (hdistinct : r.document.Distinct) {s : SessionCore}
    (h : s.Accurate r) (events : List EngineEvent) : (events.foldl (hear r) s).Accurate r := by
  induction events generalizing s with
  | nil => exact h
  | cons event rest ih => exact ih (accurate_hear hdistinct h event)

/-- A session that hears of events looks at the state after all of them, or at none. -/
theorem hearAll_cases {r : Replica} (hdistinct : r.document.Distinct) (s : SessionCore)
    (events : List EngineEvent) :
    ((∃ event ∈ events, s.looks r event = true) ∧ (events.foldl (hear r) s).Accurate r) ∨
      ((∀ event ∈ events, s.looks r event = false) ∧
        (events.foldl (hear r) s).tracker = s.tracker) := by
  induction events generalizing s with
  | nil => exact .inr ⟨fun _ hmem => (List.not_mem_nil hmem).elim, rfl⟩
  | cons event rest ih =>
      cases hlooks : s.looks r event with
      | true =>
          refine .inl ⟨⟨event, List.mem_cons_self, hlooks⟩, ?_⟩
          exact accurate_hearAll hdistinct (accurate_of_looks hdistinct hlooks) rest
      | false =>
          have htracker := tracker_of_not_looks hlooks
          have hsame := looks_congr (member_hear r s event) htracker r
          rcases ih (s.hear r event) with ⟨⟨other, hmem, hother⟩, haccurate⟩ | ⟨hnone, hkept⟩
          · rw [hsame] at hother
            exact .inl ⟨⟨other, List.mem_cons_of_mem _ hmem, hother⟩, haccurate⟩
          · refine .inr ⟨fun other hmem => ?_, hkept.trans htracker⟩
            rcases List.mem_cons.1 hmem with rfl | hmem
            · exact hlooks
            · rw [← hsame]
              exact hnone other hmem

/-- A batch is overlooked if it changes what the tracked paragraph resolves to, and nothing
that the session hears of it makes it look again. -/
def Overlooks (heard : List EngineEvent → List EngineEvent) (s : SessionCore) (r : Replica)
    (batch : Batch) : Prop :=
  (∃ current, s.tracker.current = some current ∧
    (r.applyBatch batch).1.resolved? current.paragraph ≠ r.resolved? current.paragraph) ∧
  ∀ event ∈ heard (r.applyBatch batch).2, s.looks (r.applyBatch batch).1 event = false

/-- Just the batches that are overlooked make an accurate tracker stale. -/
theorem accurate_follow_iff {heard : List EngineEvent → List EngineEvent} {s : SessionCore}
    {r : Replica} (hdistinct : r.document.Distinct) (h : s.Accurate r) (batch : Batch) :
    (follow heard (s, r) batch).1.Accurate (follow heard (s, r) batch).2 ↔
      ¬ Overlooks heard s r batch := by
  have hdistinct' := Replica.distinct_applyBatch hdistinct batch
  unfold follow Overlooks
  simp only
  rcases hearAll_cases hdistinct' s (heard (r.applyBatch batch).2) with
    ⟨⟨event, hmem, hlooks⟩, haccurate⟩ | ⟨hnone, hkept⟩
  · refine ⟨fun _ hover => ?_, fun _ => haccurate⟩
    have hblind := hover.2 event hmem
    rw [hlooks] at hblind
    cases hblind
  · constructor
    · rintro haccurate ⟨⟨current, hcurrent, hchanged⟩, -⟩
      have hnow := haccurate current (by rw [hkept]; exact hcurrent)
      exact hchanged (hnow.trans (h current hcurrent).symm)
    · intro hseen current hcurrent
      rw [hkept] at hcurrent
      by_cases hchanged : (r.applyBatch batch).1.resolved? current.paragraph =
          r.resolved? current.paragraph
      · rw [hchanged]
        exact h current hcurrent
      · exact (hseen ⟨⟨current, hcurrent, hchanged⟩, hnone⟩).elim

/-- A session that hears of all changes to paragraphs overlooks only batches that add or remove
styles. -/
theorem changesStyles_of_overlooks {heard : List EngineEvent → List EngineEvent}
    {s : SessionCore} {r : Replica} {batch : Batch} (hs : s.Accurate r)
    (hheard : ∀ events p member, .paragraphChanged p member ∈ events →
      .paragraphChanged p member ∈ heard events)
    (h : Overlooks heard s r batch) : ∃ op ∈ batch, op.changesStyles = true := by
  obtain ⟨⟨current, hcurrent, hchanged⟩, hblind⟩ := h
  by_cases hkeep : ∀ op ∈ batch, op.changesStyles = false
  · obtain ⟨member, hmem⟩ := Replica.announced_applyBatch hkeep hchanged
    have hnow : ((r.applyBatch batch).1.resolved? current.paragraph).isSome = true :=
      Replica.resolved?_applyBatch_isSome (by rw [hs current hcurrent]; rfl) batch
    have htracked : s.tracker.currentParagraph = some current.paragraph := by
      rw [StyleTracker.currentParagraph, hcurrent]
      rfl
    have hlooks : s.looks (r.applyBatch batch).1 (.paragraphChanged current.paragraph member) =
        true := by
      rw [Replica.resolved?, Option.isSome_map] at hnow
      simp only [looks, concerns, htracked, beq_self_eq_true, Bool.or_true, Bool.true_and,
        Option.bind_some, hnow]
    have hblind := hblind _ (hheard _ _ _ hmem)
    rw [hlooks] at hblind
    cases hblind
  · obtain ⟨op, hop⟩ := Classical.not_forall.1 hkeep
    obtain ⟨hmem, hop⟩ := Classical.not_imp.1 hop
    exact ⟨op, hmem, eq_true_of_ne_false hop⟩

/-! ## Sessions that track alike -/

structure Alike (s s' : SessionCore) : Prop where
  member : s'.member = s.member
  tracker : s'.tracker = s.tracker

theorem Alike.react {s s' : SessionCore} (h : Alike s s') (r : Replica) (reaction : Reaction) :
    Alike (s.react r reaction).1 (s'.react r reaction).1 := by
  refine ⟨by rw [member_react, member_react, h.member], ?_⟩
  cases reaction with
  | announce | release => exact h.tracker
  | resetTracker => rfl
  | followCursor =>
      have hcursor : s'.cursor? r = s.cursor? r := by rw [cursor?, cursor?, h.member]
      simp only [SessionCore.react, hcursor]
      cases (s.cursor? r).bind fun c => r.document.paragraphAt? c.position with
      | none => exact h.tracker
      | some info => rfl
  | recheck =>
      simp only [SessionCore.react, h.tracker]
      cases s.tracker.currentParagraph.bind r.document.paragraph? with
      | none => exact h.tracker
      | some info => rfl

theorem Alike.hear {s s' : SessionCore} (h : Alike s s') (r : Replica) (event : EngineEvent) :
    Alike (s.hear r event) (s'.hear r event) := by
  have hreactions : s'.reactions r event = s.reactions r event := by
    unfold reactions ifLocal isLocal concerns
    rw [h.member, h.tracker]
  unfold SessionCore.hear
  rw [hreactions]
  suffices hall : ∀ (l : List Reaction) {s s' : SessionCore}, Alike s s' →
      Alike (l.foldl (fun s reaction => (s.react r reaction).1) s)
        (l.foldl (fun s reaction => (s.react r reaction).1) s') from hall _ h
  intro l
  induction l with
  | nil => exact fun h => h
  | cons reaction rest ih => exact fun h => ih (h.react r reaction)

theorem Alike.hearAll {s s' : SessionCore} (h : Alike s s') (r : Replica)
    (events : List EngineEvent) :
    Alike (events.foldl (SessionCore.hear r) s) (events.foldl (SessionCore.hear r) s') := by
  induction events generalizing s s' with
  | nil => exact h
  | cons event rest ih => exact ih (h.hear r event)

end SessionCore

/-! ## A run of batches -/

/-- What a session knows, the replica that it hears of, and that replica as it was when the
session last looked at it. -/
structure Sight where
  core : SessionCore
  replica : Replica
  seen : Replica

namespace Sight

variable {heard : List EngineEvent → List EngineEvent}

def first (member : MemberId) (r : Replica) : Sight :=
  { core := { member }, replica := r, seen := r }

theorem accurate_first (member : MemberId) (r : Replica) :
    (first member r).core.Accurate r := SessionCore.accurate_of_untracked rfl

/-- Applies a batch, and lets the session react to those of its events that it hears. -/
def follow (heard : List EngineEvent → List EngineEvent) (v : Sight) (batch : Batch) : Sight :=
  let next := SessionCore.follow heard (v.core, v.replica) batch
  let looks := (heard (v.replica.applyBatch batch).2).any (v.core.looks next.2)
  { core := next.1, replica := next.2, seen := if looks then next.2 else v.seen }

/-- What a session comes to know does not depend on its reservations, nor on what it saw. -/
theorem alike_run {v : Sight} {core : SessionCore} (h : SessionCore.Alike v.core core)
    (batches : List Batch) :
    SessionCore.Alike (batches.foldl (follow heard) v).core
        (batches.foldl (SessionCore.follow heard) (core, v.replica)).1 := by
  induction batches generalizing v core with
  | nil => exact h
  | cons batch rest ih =>
      have hbatch := h.hearAll (v.replica.applyBatch batch).1
        (heard (v.replica.applyBatch batch).2)
      exact ih (v := v.follow heard batch) hbatch

theorem replica_run (v : Sight) (batches : List Batch) :
    (batches.foldl (follow heard) v).replica =
      batches.foldl (fun r batch => (r.applyBatch batch).1) v.replica := by
  induction batches generalizing v with
  | nil => rfl
  | cons batch rest ih => exact ih (v.follow heard batch)

theorem accurate_seen_follow {v : Sight} (hdistinct : v.replica.document.Distinct)
    (h : v.core.Accurate v.seen) (batch : Batch) :
    (v.follow heard batch).core.Accurate (v.follow heard batch).seen := by
  have hdistinct' := Replica.distinct_applyBatch hdistinct batch
  unfold follow
  simp only [SessionCore.follow]
  rcases SessionCore.hearAll_cases hdistinct' v.core (heard (v.replica.applyBatch batch).2) with
    ⟨⟨event, hmem, hlooks⟩, haccurate⟩ | ⟨hnone, hkept⟩
  · have hany := List.any_eq_true.2 ⟨event, hmem, hlooks⟩
    simp only [hany, if_true]
    exact haccurate
  · have hany := List.any_eq_false.2 fun event hmem => Bool.not_eq_true _ ▸ hnone event hmem
    simp only [hany, Bool.false_eq_true, if_false]
    exact SessionCore.accurate_congr (by rw [hkept]) h

/-- In every run a session tracks what it saw when it last looked. -/
theorem accurate_seen_run {v : Sight} (hdistinct : v.replica.document.Distinct)
    (h : v.core.Accurate v.seen) (batches : List Batch) :
    (batches.foldl (follow heard) v).core.Accurate (batches.foldl (follow heard) v).seen := by
  induction batches generalizing v with
  | nil => exact h
  | cons batch rest ih =>
      exact ih (Replica.distinct_applyBatch hdistinct batch) (accurate_seen_follow hdistinct h batch)

/-- Batches that leave the styles alone leave an accurate tracker accurate. -/
theorem accurate_run_of_keep {v : Sight} (hdistinct : v.replica.document.Distinct)
    (h : v.core.Accurate v.replica)
    (hheard : ∀ events p member, .paragraphChanged p member ∈ events →
      .paragraphChanged p member ∈ heard events) {batches : List Batch}
    (hkeep : ∀ batch ∈ batches, ∀ op ∈ batch, op.changesStyles = false) :
    (batches.foldl (follow heard) v).core.Accurate (batches.foldl (follow heard) v).replica := by
  induction batches generalizing v with
  | nil => exact h
  | cons batch rest ih =>
      refine ih (Replica.distinct_applyBatch hdistinct batch) ?_
        fun other hmem => hkeep other (List.mem_cons_of_mem _ hmem)
      refine (SessionCore.accurate_follow_iff hdistinct h batch).2 fun hover => ?_
      obtain ⟨op, hop, hchanges⟩ := SessionCore.changesStyles_of_overlooks h hheard hover
      rw [hkeep batch List.mem_cons_self op hop] at hchanges
      cases hchanges

/-- The tracked style is stale just if what the tracked paragraph resolves to is not what it was
when the session last looked. -/
theorem current_iff_unchanged {v : Sight} (h : v.core.Accurate v.seen) {current : CurrentParagraph}
    (hcurrent : v.core.tracker.current = some current) :
    v.replica.resolved? current.paragraph = some current.style ↔
      v.replica.resolved? current.paragraph = v.seen.resolved? current.paragraph := by
  rw [h current hcurrent]

end Sight

end Coedit
