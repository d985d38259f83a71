import Coedit.Teardown
import Mathlib.Algebra.GroupWithZero.Nat

/-!
# Teardown, one moment at a time

The future of a step is created when the step is reached, and whoever waits for the teardown polls
it until it ends, which may take many polls. Here a teardown is followed from one moment to the
next. The invariant is that the steps behind it have all succeeded, and that at most one future is
alive. However often futures pause, the teardown comes to its end, and what was seen of it by then
is what `TeardownStep.destroyAll` says.
-/

namespace Coedit

/-- What can happen to the future of a step. -/
inductive Happening where
  | created
  | started
  | paused
  | ended (succeeded : Bool)
  deriving DecidableEq, Repr

def Happening.begun (pauses : Nat) : List Happening :=
  .created :: .started :: List.replicate pauses .paused

/-- What a teardown is about to do: to reach the next step, to poll a future for the first time, to
poll one again that will still pause so many times, or nothing. -/
inductive TeardownProspect where
  | reach
  | start (step : TeardownStep)
  | resume (step : TeardownStep) (pauses : Nat)
  | done (result : Except TeardownError Unit)

/-- A teardown under way: the steps that it has not reached, the position of the one that it is at,
and all that happened to futures, with the positions of their steps. -/
structure Teardown where
  waiting : List TeardownStep
  position : Nat := 0
  prospect : TeardownProspect := .reach
  past : List (Nat × Happening) := []

namespace TeardownStep

def pauses (s : TeardownStep) : Nat :=
  match s.work with
  | .component | .call => 0
  | .job pauses => pauses

/-- What is noted of a deed. A component is told, and a function called, when the future is
created; they leave nothing to wait for. -/
def noted (s : TeardownStep) (deed : Happening) : List TeardownNote :=
  match s.work, deed with
  | .component, .created => [.told s.label]
  | .call, .created => [.called s.label]
  | .job _, .created => [.created s.label]
  | .job _, .started => [.started s.label]
  | .job _, .paused => [.paused s.label]
  | .job _, .ended succeeded => [.ended s.label succeeded]
  | _, _ => []

def deeds (s : TeardownStep) : List Happening :=
  Happening.begun s.pauses ++ [.ended s.failure.isNone]

theorem flatMap_noted_deeds (s : TeardownStep) : s.deeds.flatMap s.noted = s.notes := by
  have hpaused (h : s.noted .paused = [.paused s.label]) (pauses : Nat) :
      (List.replicate pauses Happening.paused).flatMap s.noted =
        List.replicate pauses (.paused s.label) := by
    induction pauses with
    | zero => rfl
    | succ n ih =>
        rw [List.replicate_succ, List.flatMap_cons, h, ih]
        rfl
  unfold deeds notes pauses Happening.begun
  cases h : s.work with
  | component | call => simp [noted, h]
  | job pauses =>
      have hnote : s.noted .paused = [.paused s.label] := by simp [noted, h]
      simp only [List.cons_append, List.flatMap_cons, List.flatMap_append, hpaused hnote pauses]
      simp [noted, h]

end TeardownStep

namespace Teardown

def ofSteps (steps : List TeardownStep) : Teardown := { waiting := steps }

def happens (t : Teardown) (deed : Happening) (prospect : TeardownProspect) : Teardown :=
  { t with prospect, past := t.past ++ [(t.position, deed)] }

def next (t : Teardown) : Teardown :=
  match t.prospect with
  | .reach =>
    match t.waiting with
    | [] => { t with prospect := .done (.ok ()) }
    | s :: rest => { t with waiting := rest }.happens .created (.start s)
  | .start s => t.happens .started (.resume s s.pauses)
  | .resume s (pauses + 1) => t.happens .paused (.resume s pauses)
  | .resume s 0 =>
    match s.failure with
    | none => { t.happens (.ended true) .reach with position := t.position + 1 }
    | some cause => t.happens (.ended false) (.done (.error cause))
  | .done _ => t

def after : Nat → Teardown → Teardown
  | 0, t => t
  | n + 1, t => after n t.next

def positions (kind : Happening → Bool) (past : List (Nat × Happening)) : List Nat :=
  (past.filter fun entry => kind entry.2).map (·.1)

def noted (steps : List TeardownStep) (past : List (Nat × Happening)) : List TeardownNote :=
  past.flatMap fun entry =>
    match steps[entry.1]? with
    | some s => s.noted entry.2
    | none => []

/-! ## What may happen -/

/-- What must have happened for a deed to be allowed. No deed is allowed after a failure. -/
def Allowed (steps : List TeardownStep) (past : List (Nat × Happening)) (i : Nat)
    (deed : Happening) : Prop :=
  (∀ j, (j, .ended false) ∉ past) ∧
  match deed with
  | .created =>
    i < steps.length ∧ (∀ j < i, (j, .ended true) ∈ past) ∧ ∀ j ≥ i, ∀ earlier, (j, earlier) ∉ past
  | .started => (i, .created) ∈ past ∧ (i, .started) ∉ past
  | .paused =>
    (i, .started) ∈ past ∧ (i, .ended true) ∉ past ∧
      ∃ s, steps[i]? = some s ∧ past.count (i, .paused) < s.pauses
  | .ended succeeded =>
    (i, .started) ∈ past ∧ (i, .ended true) ∉ past ∧
      ∃ s, steps[i]? = some s ∧ past.count (i, .paused) = s.pauses ∧
        succeeded = s.failure.isNone

/-- Whatever happened was allowed by what had happened before. -/
inductive Proceeded (steps : List TeardownStep) : List (Nat × Happening) → Prop where
  | nil : Proceeded steps []
  | concat {past : List (Nat × Happening)} {i : Nat} {deed : Happening}
      (before : Proceeded steps past) (allowed : Allowed steps past i deed) :
      Proceeded steps (past ++ [(i, deed)])

/-! ## The steps behind -/

def passed : Nat → List TeardownStep → List (Nat × Happening)
  | _, [] => []
  | i, s :: rest => s.deeds.map (Prod.mk i) ++ passed (i + 1) rest

theorem passed_append (i : Nat) (first second : List TeardownStep) :
    passed i (first ++ second) = passed i first ++ passed (i + first.length) second := by
  induction first generalizing i with
  | nil => rfl
  | cons s rest ih =>
      simp only [List.cons_append, passed, ih, List.append_assoc, List.length_cons]
      rw [show i + 1 + rest.length = i + (rest.length + 1) by omega]

theorem mem_passed {i j : Nat} {steps : List TeardownStep} {deed : Happening} :
    (j, deed) ∈ passed i steps ↔
      ∃ k s, steps[k]? = some s ∧ j = i + k ∧ deed ∈ s.deeds := by
  induction steps generalizing i with
  | nil => simp [passed]
  | cons s rest ih =>
      rw [passed, List.mem_append, ih]
      constructor
      · rintro (hfirst | ⟨k, s', hs', rfl, hdeed⟩)
        · obtain ⟨deed', hdeed, heq⟩ := List.mem_map.1 hfirst
          obtain ⟨rfl, rfl⟩ := Prod.mk.inj heq
          exact ⟨0, s, rfl, rfl, hdeed⟩
        · exact ⟨k + 1, s', hs', by omega, hdeed⟩
      · rintro ⟨k, s', hs', rfl, hdeed⟩
        cases k with
        | zero =>
            obtain rfl := Option.some.inj hs'
            exact .inl (List.mem_map.2 ⟨deed, hdeed, rfl⟩)
        | succ k => exact .inr ⟨k, s', hs', by omega, hdeed⟩

/-- A kind of deed that happens once to each future happens at one position after the other. -/
theorem positions_passed {kind : Happening → Bool}
    (honce : ∀ s : TeardownStep, s.deeds.countP kind = 1) (i : Nat) (steps : List TeardownStep) :
    positions kind (passed i steps) = List.range' i steps.length := by
  induction steps generalizing i with
  | nil => rfl
  | cons s rest ih =>
      have hfirst : positions kind (s.deeds.map (Prod.mk i)) = [i] := by
        have hlength : (s.deeds.filter kind).length = 1 := by
          rw [← List.countP_eq_length_filter]
          exact honce s
        obtain ⟨deed, hdeed⟩ := List.length_eq_one_iff.1 hlength
        have hfilter : (s.deeds.map (Prod.mk i)).filter (fun entry => kind entry.2) =
            (s.deeds.filter kind).map (Prod.mk i) := List.filter_map
        rw [positions, hfilter, hdeed]
        rfl
      have hrest := ih (i + 1)
      unfold positions at hfirst hrest ⊢
      rw [passed, List.filter_append, List.map_append, hfirst, hrest, List.length_cons,
        List.range'_succ]
      rfl

theorem noted_passed {i : Nat} {steps all : List TeardownStep}
    (h : ∀ k s, steps[k]? = some s → all[i + k]? = some s) :
    noted all (passed i steps) = steps.flatMap TeardownStep.notes := by
  induction steps generalizing i with
  | nil => rfl
  | cons s rest ih =>
      have hhere : noted all (s.deeds.map (Prod.mk i)) = s.notes := by
        have hfound : all[i]? = some s := h 0 s rfl
        rw [← s.flatMap_noted_deeds, noted, List.flatMap_map]
        simp only [hfound]
      have hrest := ih (i := i + 1) fun k s' hs' => by
        rw [show i + 1 + k = i + (k + 1) by omega]
        exact h (k + 1) s' hs'
      unfold noted at hhere hrest ⊢
      rw [passed, List.flatMap_append, hhere, hrest, List.flatMap_cons]

/-! ## The invariant -/

/-- The steps before the position have succeeded, and no more has happened than that, and what
happened to the future that is alive. -/
inductive Sound (steps : List TeardownStep) : Teardown → Prop where
  | reach (before rest : List TeardownStep) (hsteps : steps = before ++ rest)
      (hbefore : ∀ s ∈ before, s.failure = none) :
      Sound steps ⟨rest, before.length, .reach, passed 0 before⟩
  | start (before rest : List TeardownStep) (s : TeardownStep) (hsteps : steps = before ++ s :: rest)
      (hbefore : ∀ s ∈ before, s.failure = none) :
      Sound steps ⟨rest, before.length, .start s, passed 0 before ++ [(before.length, .created)]⟩
  | resume (before rest : List TeardownStep) (s : TeardownStep) (pauses done : Nat)
      (hsteps : steps = before ++ s :: rest) (hbefore : ∀ s ∈ before, s.failure = none)
      (hpauses : done + pauses = s.pauses) :
      Sound steps ⟨rest, before.length, .resume s pauses, passed 0 before ++
        (Happening.begun done).map (Prod.mk before.length)⟩
  | succeeded (hsteps : ∀ s ∈ steps, s.failure = none) :
      Sound steps ⟨[], steps.length, .done (.ok ()), passed 0 steps⟩
  | failed (before rest : List TeardownStep) (s : TeardownStep) (cause : TeardownError)
      (hsteps : steps = before ++ s :: rest) (hbefore : ∀ s ∈ before, s.failure = none)
      (hfailure : s.failure = some cause) :
      Sound steps ⟨rest, before.length, .done (.error cause), passed 0 (before ++ [s])⟩

section Sound

variable {steps before rest : List TeardownStep} {t : Teardown}

theorem lt_length_of_mem_passed {j : Nat} {deed : Happening} (h : (j, deed) ∈ passed 0 before) :
    j < before.length := by
  obtain ⟨k, s, hs, rfl, -⟩ := mem_passed.1 h
  have hk := (List.getElem?_eq_some_iff.1 hs).1
  omega

/-- Steps that succeeded have ended, and none of them by failing. -/
theorem ended_of_passed (hbefore : ∀ s ∈ before, s.failure = none) {j : Nat} :
    (j < before.length → (j, .ended true) ∈ passed 0 before) ∧
      (j, .ended false) ∉ passed 0 before := by
  refine ⟨fun hj => ?_, fun hfailed => ?_⟩
  · refine mem_passed.2 ⟨j, before[j], List.getElem?_eq_getElem hj, by omega, ?_⟩
    simp [TeardownStep.deeds, hbefore before[j] (List.getElem_mem hj)]
  · obtain ⟨k, s, hs, -, hdeed⟩ := mem_passed.1 hfailed
    simp [TeardownStep.deeds, Happening.begun, hbefore s (List.mem_of_getElem? hs)] at hdeed

theorem getElem?_at (before rest : List TeardownStep) (s : TeardownStep) :
    (before ++ s :: rest)[before.length]? = some s := by simp

/-- Of the future that is alive, and of it alone, there is more in the past than `passed`. -/
theorem mem_past {j : Nat} {deed : Happening} {deeds : List Happening} :
    (j, deed) ∈ passed 0 before ++ deeds.map (Prod.mk before.length) ↔
      (j, deed) ∈ passed 0 before ∨ j = before.length ∧ deed ∈ deeds := by
  rw [List.mem_append, List.mem_map]
  constructor
  · rintro (hpassed | ⟨deed', hdeed, heq⟩)
    · exact .inl hpassed
    · obtain ⟨rfl, rfl⟩ := Prod.mk.inj heq
      exact .inr ⟨rfl, hdeed⟩
  · rintro (hpassed | ⟨rfl, hdeed⟩)
    · exact .inl hpassed
    · exact .inr ⟨deed, hdeed, rfl⟩

theorem count_paused (before : List TeardownStep) (done : Nat) :
    (passed 0 before ++ (Happening.begun done).map (Prod.mk before.length)).count
      (before.length, .paused) = done := by
  have hbefore : (passed 0 before).count (before.length, .paused) = 0 :=
    List.count_eq_zero.2 fun hmem => absurd (lt_length_of_mem_passed hmem) (Nat.lt_irrefl _)
  rw [List.count_append, hbefore]
  simp [Happening.begun]

theorem sound_next (h : Sound steps t) : Sound steps t.next := by
  cases h with
  | reach before rest hsteps hbefore =>
      cases rest with
      | nil =>
          obtain rfl : steps = before := by simpa using hsteps
          exact .succeeded hbefore
      | cons s rest => exact .start before rest s hsteps hbefore
  | start before rest s hsteps hbefore =>
      have hnext := Sound.resume before rest s s.pauses 0 hsteps hbefore (by omega)
      simpa [next, happens, Happening.begun] using hnext
  | resume before rest s pauses done hsteps hbefore hpauses =>
      cases pauses with
      | succ pauses =>
          have hnext := Sound.resume before rest s pauses (done + 1) hsteps hbefore (by omega)
          simpa [next, happens, Happening.begun, List.replicate_succ'] using hnext
      | zero =>
          have hpassed : passed 0 (before ++ [s]) = passed 0 before ++
              (Happening.begun done ++ [Happening.ended s.failure.isNone]).map
                (Prod.mk before.length) := by
            rw [passed_append, Nat.zero_add, passed, passed, List.append_nil,
              TeardownStep.deeds, ← hpauses, Nat.add_zero]
          cases hfailure : s.failure with
          | none =>
              have hsucceeded : ∀ s' ∈ before ++ [s], s'.failure = none := by
                simpa [or_imp, forall_and] using ⟨hbefore, hfailure⟩
              have hnext := Sound.reach (before ++ [s]) rest (by simpa using hsteps) hsucceeded
              rw [hpassed, hfailure] at hnext
              simpa [next, happens, hfailure] using hnext
          | some cause =>
              have hnext := Sound.failed before rest s cause hsteps hbefore hfailure
              rw [hpassed, hfailure] at hnext
              simpa [next, happens, hfailure] using hnext
  | succeeded hsteps => exact .succeeded hsteps
  | failed before rest s cause hsteps hbefore hfailure =>
      exact .failed before rest s cause hsteps hbefore hfailure

/-- A step of the teardown does nothing to futures, or one thing that is allowed. -/
theorem allowed_next (h : Sound steps t) :
    t.next.past = t.past ∨
      ∃ i deed, t.next.past = t.past ++ [(i, deed)] ∧ Allowed steps t.past i deed := by
  cases h with
  | reach before rest hsteps hbefore =>
      cases rest with
      | nil => exact .inl rfl
      | cons s rest =>
          refine .inr ⟨before.length, .created, rfl, fun j => (ended_of_passed hbefore).2, ?_,
            fun j hj => (ended_of_passed hbefore).1 hj, fun j hj earlier hmem => ?_⟩
          · rw [hsteps, List.length_append, List.length_cons]
            omega
          · exact absurd (lt_length_of_mem_passed hmem) (by omega)
  | start before rest s hsteps hbefore =>
      refine .inr ⟨before.length, .started, rfl, fun j hmem => ?_, by simp, fun hmem => ?_⟩
      · have hpassed : (j, Happening.ended false) ∈ passed 0 before := by simpa using hmem
        exact (ended_of_passed hbefore).2 hpassed
      · have hpassed : (before.length, Happening.started) ∈ passed 0 before := by
          simpa using hmem
        exact absurd (lt_length_of_mem_passed hpassed) (Nat.lt_irrefl _)
  | resume before rest s pauses done hsteps hbefore hpauses =>
      have hended (j : Nat) (succeeded : Bool)
          (hj : succeeded = false ∨ j = before.length) :
          (j, Happening.ended succeeded) ∉ passed 0 before ++
            (Happening.begun done).map (Prod.mk before.length) := by
        rw [mem_past]
        rintro (hpassed | ⟨-, hdeed⟩)
        · rcases hj with rfl | rfl
          · exact (ended_of_passed hbefore).2 hpassed
          · exact absurd (lt_length_of_mem_passed hpassed) (Nat.lt_irrefl _)
        · simp [Happening.begun] at hdeed
      have hstarted : (before.length, Happening.started) ∈ passed 0 before ++
          (Happening.begun done).map (Prod.mk before.length) := by
        rw [mem_past]
        exact .inr ⟨rfl, by simp [Happening.begun]⟩
      have hstep : steps[before.length]? = some s := hsteps ▸ getElem?_at before rest s
      have hcount := count_paused before done
      cases pauses with
      | succ pauses =>
          refine .inr ⟨before.length, .paused, rfl, fun j => hended j false (.inl rfl), hstarted,
            hended _ true (.inr rfl), s, hstep, ?_⟩
          rw [hcount]
          omega
      | zero =>
          refine .inr ⟨before.length, .ended s.failure.isNone, ?_,
            fun j => hended j false (.inl rfl), hstarted, hended _ true (.inr rfl), s, hstep, ?_, rfl⟩
          · simp only [next]
            cases s.failure <;> rfl
          · rw [hcount]
            omega
  | succeeded hsteps => exact .inl rfl
  | failed before rest s cause hsteps hbefore hfailure => exact .inl rfl

theorem sound_after (h : Sound steps t) (n : Nat) : Sound steps (after n t) := by
  induction n generalizing t with
  | zero => exact h
  | succ n ih => exact ih (sound_next h)

theorem proceeded_after (h : Sound steps t) (hpast : Proceeded steps t.past) (n : Nat) :
    Proceeded steps (after n t).past := by
  induction n generalizing t with
  | zero => exact hpast
  | succ n ih =>
      refine ih (sound_next h) ?_
      obtain hsame | ⟨i, deed, hnext, hallowed⟩ := allowed_next h
      · rw [hsame]
        exact hpast
      · rw [hnext]
        exact .concat hpast hallowed

theorem sound_ofSteps (steps : List TeardownStep) : Sound steps (ofSteps steps) :=
  .reach [] steps rfl fun _ h => (List.not_mem_nil h).elim

end Sound

/-! ## The end -/

def left (t : Teardown) : Nat :=
  let later := (t.waiting.map fun s => s.pauses + 3).sum
  match t.prospect with
  | .reach => later + 1
  | .start s => later + s.pauses + 3
  | .resume _ pauses => later + pauses + 2
  | .done _ => 0

theorem left_next (t : Teardown) : t.next.left ≤ t.left - 1 := by
  obtain ⟨waiting, position, prospect, past⟩ := t
  cases prospect with
  | reach =>
      cases waiting with
      | nil => exact Nat.zero_le _
      | cons s rest =>
          simp only [next, happens, left, List.map_cons, List.sum_cons]
          omega
  | start s => exact Nat.le_refl _
  | resume s pauses =>
      cases pauses with
      | succ pauses => exact Nat.le_refl _
      | zero =>
          simp only [next]
          cases s.failure with
          | none => exact Nat.le_refl _
          | some cause => exact Nat.zero_le _
  | done result => exact Nat.zero_le _

theorem left_after (n : Nat) (t : Teardown) : (after n t).left ≤ t.left - n := by
  induction n generalizing t with
  | zero => exact Nat.le_refl _
  | succ n ih =>
      have hnext := left_next t
      have hlater := ih t.next
      rw [after]
      omega

theorem over_of_left {t : Teardown} (h : t.left = 0) : ∃ result, t.prospect = .done result := by
  unfold left at h
  cases hp : t.prospect with
  | done result => exact ⟨result, rfl⟩
  | reach | start | resume => simp [hp] at h

/-- Actions of steps that succeed do nothing but take notes. -/
theorem tearDownAll_of_succeeding {before : List TeardownStep}
    (hbefore : ∀ s ∈ before, s.failure = none) (rest : List TeardownStep)
    (notes : List TeardownNote) :
    tearDownAll ((before ++ rest).map TeardownStep.run) notes =
      tearDownAll (rest.map TeardownStep.run) (notes ++ before.flatMap TeardownStep.notes) := by
  induction before generalizing notes with
  | nil => simp
  | cons s later ih =>
      obtain ⟨hs, hlater⟩ := List.forall_mem_cons.1 hbefore
      have hrun : s.run notes = (.ok (), notes ++ s.notes) := by
        simp [TeardownStep.run, TeardownStep.outcome, hs]
      rw [List.cons_append, List.map_cons, tearDownAll, hrun]
      simp only
      rw [ih hlater, List.append_assoc, List.flatMap_cons]

/-- How many steps are run: all up to the first one that fails. -/
def extent (steps : List TeardownStep) : Nat :=
  min (steps.findIdx (fun s => s.failure.isSome) + 1) steps.length

theorem extent_of_failure {before rest : List TeardownStep} {s : TeardownStep}
    (hbefore : ∀ s ∈ before, s.failure = none) (hs : s.failure.isSome = true) :
    extent (before ++ s :: rest) = before.length + 1 := by
  have hfirst : (before ++ s :: rest).findIdx (fun s => s.failure.isSome) = before.length := by
    rw [List.findIdx_append, List.findIdx_eq_length_of_false (fun s' h' => by simp [hbefore s' h']),
      if_neg (Nat.lt_irrefl _), List.findIdx_cons, hs]
    exact Nat.zero_add _
  rw [extent, hfirst, List.length_append, List.length_cons]
  omega

theorem extent_of_success {steps : List TeardownStep} (h : ∀ s ∈ steps, s.failure = none) :
    extent steps = steps.length := by
  rw [extent, List.findIdx_eq_length_of_false fun s hs => by simp [h s hs]]
  omega

/-- What a teardown has come to when it is over. -/
theorem over_of_sound {steps : List TeardownStep} {t : Teardown} (h : Sound steps t)
    {result : Except TeardownError Unit} (hover : t.prospect = .done result) :
    TeardownStep.destroyAll steps = (result, noted steps t.past) ∧
      t.past = passed 0 (steps.take (extent steps)) ∧
      result = ((steps.findSome? (·.failure)).elim (.ok ()) .error) := by
  cases h with
  | reach | start | resume => cases hover
  | succeeded hsteps =>
      cases hover
      have hnoted : noted steps (passed 0 steps) = steps.flatMap TeardownStep.notes :=
        noted_passed fun k s hs => by rwa [Nat.zero_add]
      have hfirst : steps.findSome? (·.failure) = none := List.findSome?_eq_none_iff.2 hsteps
      have hdone := tearDownAll_of_succeeding hsteps [] []
      rw [List.append_nil] at hdone
      refine ⟨?_, ?_, ?_⟩
      · rw [TeardownStep.destroyAll, hdone, hnoted]
        rfl
      · rw [extent_of_success hsteps, List.take_length]
      · rw [hfirst]
        rfl
  | failed before rest s cause hsteps hbefore hfailure =>
      cases hover
      have hextent : steps.take (extent steps) = before ++ [s] := by
        rw [hsteps, extent_of_failure hbefore (by simp [hfailure]), List.append_cons]
        exact List.take_left' (by simp)
      have hnoted : noted steps (passed 0 (before ++ [s])) =
          (before ++ [s]).flatMap TeardownStep.notes := by
        refine noted_passed fun k s' hs' => ?_
        rw [Nat.zero_add, show steps = (before ++ [s]) ++ rest by simp [hsteps]]
        rw [List.getElem?_append_left (List.getElem?_eq_some_iff.1 hs').1]
        exact hs'
      have hfirst : steps.findSome? (·.failure) = some cause := by
        rw [hsteps, List.findSome?_append, List.findSome?_eq_none_iff.2 hbefore]
        simp [hfailure]
      have hrun (notes : List TeardownNote) : s.run notes = (.error cause, notes ++ s.notes) := by
        simp [TeardownStep.run, TeardownStep.outcome, hfailure]
      refine ⟨?_, by rw [hextent], ?_⟩
      · rw [TeardownStep.destroyAll, hnoted, hsteps, tearDownAll_of_succeeding hbefore,
          List.map_cons, tearDownAll, hrun]
        simp
      · rw [hfirst]
        rfl

/-- However often the futures pause: at every moment all that has happened was allowed, and after
finitely many moments the teardown is over. By then the futures of the steps up to the first that
fails have been created, started and ended, each once and one after the other, those of no others
have, and the result is the first failure. -/
theorem one_step_at_a_time (steps : List TeardownStep) :
    (∀ n, Proceeded steps (after n (ofSteps steps)).past) ∧
      ∃ enough, ∀ n ≥ enough,
        let t := after n (ofSteps steps)
        t.prospect = .done (TeardownStep.destroyAll steps).1 ∧
          noted steps t.past = (TeardownStep.destroyAll steps).2 ∧
          positions (· = .created) t.past = List.range (extent steps) ∧
          positions (· = .started) t.past = List.range (extent steps) ∧
          positions (fun deed => deed = .ended true ∨ deed = .ended false) t.past =
            List.range (extent steps) ∧
          (TeardownStep.destroyAll steps).1 =
            (steps.findSome? (·.failure)).elim (.ok ()) .error := by
  have hsound := sound_ofSteps steps
  refine ⟨proceeded_after hsound .nil, (ofSteps steps).left, fun n hn => ?_⟩
  intro t
  have hleft : t.left = 0 := by
    have hless : t.left ≤ (ofSteps steps).left - n := left_after n (ofSteps steps)
    omega
  obtain ⟨result, hover⟩ := over_of_left hleft
  obtain ⟨hall, hpast, hresult⟩ := over_of_sound (sound_after hsound n) hover
  have hpositions {kind : Happening → Bool}
      (honce : ∀ s : TeardownStep, s.deeds.countP kind = 1) :
      positions kind t.past = List.range (extent steps) := by
    rw [show t.past = passed 0 (steps.take (extent steps)) from hpast, positions_passed honce,
      List.range_eq_range', List.length_take, Nat.min_eq_left]
    exact Nat.min_le_right _ _
  rw [hall]
  refine ⟨hover, rfl, hpositions fun s => ?_, hpositions fun s => ?_, hpositions fun s => ?_,
    hresult⟩
  · simp [TeardownStep.deeds, Happening.begun, List.countP_append, List.countP_replicate]
  · simp [TeardownStep.deeds, Happening.begun, List.countP_append, List.countP_replicate]
  · cases hfailure : s.failure <;>
      simp [TeardownStep.deeds, Happening.begun, List.countP_append, List.countP_replicate,
        hfailure]

end Teardown

end Coedit
