import Coedit.Signal.Script
import Mathlib.Data.List.Induction

/-!
# What happens on a bus

Handlers may subscribe, unsubscribe, clear and emit while they run, so emissions nest. A play is a
bus together with all that happened on it, in order; `Played` says what can happen, whatever the
handlers decide to do. However they interleave, an emission reaches the subscriptions that stood
when it started, and nothing that happens meanwhile counts.
-/

namespace Coedit

/-- Something that happened on a bus. An emission is named by the moment at which it started. -/
inductive Moment (κ ε : Type) where
  | subscribed (kind : κ) (id : Nat)
  | unsubscribed (kind : κ) (id : Nat)
  | cleared
  | started (event : ε)
  | reached (emission : Nat) (event : ε) (id : Nat)
  | finished (emission : Nat)
  | refused (cause : SignalError)

namespace Moment

variable {κ ε : Type}

def given? : Moment κ ε → Option Nat
  | subscribed _ id => some id
  | _ => none

def reached? (emission : Nat) : Moment κ ε → Option Nat
  | reached n _ id => if n = emission then some id else none
  | _ => none

def Ends (kind : κ) (id : Nat) (m : Moment κ ε) : Prop := m = unsubscribed kind id ∨ m = cleared

theorem ends_unsubscribed {kind kind' : κ} {id id' : Nat} :
    (unsubscribed kind id : Moment κ ε).Ends kind' id' ↔ kind' = kind ∧ id' = id := by
  simp [Ends, eq_comm]

end Moment

/-- A subscription was made, and has not been ended since. -/
def Stands {κ ε : Type} (past : List (Moment κ ε)) (kind : κ) (id : Nat) : Prop :=
  ∃ before after, past = before ++ .subscribed kind id :: after ∧ ∀ m ∈ after, ¬ m.Ends kind id

def reachedBy {κ ε : Type} (emission : Nat) (moments : List (Moment κ ε)) : List Nat :=
  moments.filterMap (Moment.reached? emission)

structure Play (κ ε η : Type) where
  bus : SignalBus κ η
  past : List (Moment κ ε) := []

namespace Play

variable {κ ε η : Type}

def ofKinds (kinds : List κ) : Play κ ε η := { bus := { declared := kinds } }

def note (m : Moment κ ε) (p : Play κ ε η) : Play κ ε η := { p with past := p.past ++ [m] }

end Play

/-- Who is about to act: nobody in particular, or the handlers that an emission is still to
reach. -/
inductive Cast (κ ε η : Type) where
  | anyone
  | handlers (emission : Nat) (event : ε) (waiting : List (Subscription κ η))

section Played

variable {κ ε η : Type} [SignalKind κ] [BusEvent ε κ]

/-- All that can happen from one moment to another. A handler that is reached does what it likes
before the next one is reached. -/
inductive Played : Cast κ ε η → Play κ ε η → Play κ ε η → Prop where
  | rest (p) : Played .anyone p p
  | subscribe {p p'} {kind : κ} {handler : η} {id : Nat} {bus : SignalBus κ η}
      (h : p.bus.subscribe kind handler = .ok (id, bus))
      (later : Played .anyone { bus, past := p.past ++ [.subscribed kind id] } p') :
      Played .anyone p p'
  | refuseSubscription {p p'} {kind : κ} {handler : η} {cause : SignalError}
      (h : p.bus.subscribe kind handler = .error cause)
      (later : Played .anyone (p.note (.refused cause)) p') : Played .anyone p p'
  | unsubscribe {p p'} {kind : κ} {id : Nat}
      (later : Played .anyone
        { bus := p.bus.unsubscribe kind id, past := p.past ++ [.unsubscribed kind id] } p') :
      Played .anyone p p'
  | clear {p p'} (later : Played .anyone { bus := p.bus.clear, past := p.past ++ [.cleared] } p') :
      Played .anyone p p'
  | emit {p q p'} {event : ε} (h : p.bus.checkDeclared (BusEvent.kind event) = .ok ())
      (during : Played
        (.handlers p.past.length event
          (p.bus.subscriptions.filter (·.kind == BusEvent.kind event)))
        (p.note (.started event)) q)
      (later : Played .anyone (q.note (.finished p.past.length)) p') : Played .anyone p p'
  | refuseEmission {p p'} {event : ε} {cause : SignalError}
      (h : p.bus.checkDeclared (BusEvent.kind event) = .error cause)
      (later : Played .anyone (p.note (.refused cause)) p') : Played .anyone p p'
  | allReached {n event} (p) : Played (.handlers n event []) p p
  | reach {n event p q p'} {s : Subscription κ η} {waiting : List (Subscription κ η)}
      (acts : Played .anyone (p.note (.reached n event s.id)) q)
      (others : Played (.handlers n event waiting) q p') :
      Played (.handlers n event (s :: waiting)) p p'

end Played

@[simp] theorem reachedBy_nil {κ ε : Type} (n : Nat) :
    reachedBy n ([] : List (Moment κ ε)) = [] := rfl

@[simp] theorem reachedBy_append {κ ε : Type} (n : Nat) (first second : List (Moment κ ε)) :
    reachedBy n (first ++ second) = reachedBy n first ++ reachedBy n second :=
  List.filterMap_append

theorem reachedBy_cons {κ ε : Type} (n : Nat) (m : Moment κ ε) (rest : List (Moment κ ε)) :
    reachedBy n (m :: rest) = (m.reached? n).toList ++ reachedBy n rest := by
  unfold reachedBy
  cases h : m.reached? n <;> simp [h]

theorem mem_reachedBy {κ ε : Type} {n id : Nat} {moments : List (Moment κ ε)} :
    id ∈ reachedBy n moments ↔ ∃ event, .reached n event id ∈ moments := by
  unfold reachedBy
  constructor
  · intro h
    obtain ⟨m, hm, hid⟩ := List.mem_filterMap.1 h
    cases m with
    | reached n' event id' =>
        obtain ⟨rfl, hsame⟩ := Option.ite_none_right_eq_some.1 hid
        cases hsame
        exact ⟨event, hm⟩
    | _ => cases hid
  · rintro ⟨event, hm⟩
    exact List.mem_filterMap.2 ⟨_, hm, if_pos rfl⟩

/-! ## What stands -/

section Stands

variable {κ ε : Type} {past later : List (Moment κ ε)} {kind : κ} {id : Nat} {m : Moment κ ε}

/-- An item of a list with a new last item is that one or one of the others. -/
theorem split_concat {α : Type} {past before after : List α} {last x : α}
    (h : past ++ [last] = before ++ x :: after) :
    past = before ∧ last = x ∧ after = [] ∨
      ∃ after', after = after' ++ [last] ∧ past = before ++ x :: after' := by
  rcases List.eq_nil_or_concat after with rfl | ⟨after', y, rfl⟩
  · obtain ⟨hpast, hlast⟩ := List.append_inj' h rfl
    exact .inl ⟨hpast, List.singleton_inj.1 hlast, rfl⟩
  · rw [List.concat_eq_append, ← List.cons_append, ← List.append_assoc] at h
    obtain ⟨hpast, hlast⟩ := List.append_inj' h rfl
    obtain rfl := List.singleton_inj.1 hlast
    exact .inr ⟨after', List.concat_eq_append, hpast⟩

theorem stands_concat :
    Stands (past ++ [m]) kind id ↔
      m = .subscribed kind id ∨ Stands past kind id ∧ ¬ m.Ends kind id := by
  constructor
  · rintro ⟨before, after, heq, hafter⟩
    rcases split_concat heq with ⟨-, hlast, -⟩ | ⟨after', rfl, hpast⟩
    · exact .inl hlast
    · exact .inr ⟨⟨before, after', hpast, fun m hm => hafter m (List.mem_append_left _ hm)⟩,
        hafter m (by simp)⟩
  · rintro (rfl | ⟨⟨before, after, rfl, hafter⟩, hends⟩)
    · exact ⟨past, [], rfl, fun _ hm => (List.not_mem_nil hm).elim⟩
    · refine ⟨before, after ++ [m], by simp, fun m' hm' => ?_⟩
      rcases List.mem_append.1 hm' with hold | hnew
      · exact hafter m' hold
      · rw [List.mem_singleton.1 hnew]
        exact hends

theorem stands_append : Stands (past ++ later) kind id ↔
    Stands later kind id ∨ Stands past kind id ∧ ∀ m ∈ later, ¬ m.Ends kind id := by
  induction later using List.reverseRecOn with
  | nil => simp [Stands]
  | append_singleton later m ih =>
      rw [← List.append_assoc, stands_concat, stands_concat, ih]
      simp only [List.mem_append, List.mem_singleton, or_imp, forall_and, forall_eq]
      grind

theorem mem_of_stands (h : Stands past kind id) : .subscribed kind id ∈ past := by
  obtain ⟨before, after, rfl, -⟩ := h
  simp

theorem mem_given_of_stands (h : Stands past kind id) : id ∈ past.filterMap Moment.given? :=
  List.mem_filterMap.2 ⟨_, mem_of_stands h, rfl⟩

end Stands

/-! ## Sound plays -/

section Sound

variable {κ ε η : Type} {p : Play κ ε η} {m : Moment κ ε}

/-- The bus has just the subscriptions that stand, in the order of their identifiers, which are
given out in increasing order. No emission reached anybody before it started. -/
structure Play.Sound (p : Play κ ε η) : Prop where
  ordered : (p.bus.subscriptions.map (·.id)).Pairwise (· < ·)
  given : (p.past.filterMap Moment.given?).Pairwise (· < ·)
  numbered : ∀ id ∈ p.past.filterMap Moment.given?, id < p.bus.nextId
  standing : ∀ kind id, (∃ s ∈ p.bus.subscriptions, s.kind = kind ∧ s.id = id) ↔
    Stands p.past kind id
  started : ∀ n, p.past.length ≤ n → reachedBy n p.past = []

theorem Play.Sound.lt_nextId (h : p.Sound) {s : Subscription κ η} (hs : s ∈ p.bus.subscriptions) :
    s.id < p.bus.nextId :=
  h.numbered _ (mem_given_of_stands ((h.standing s.kind s.id).1 ⟨s, hs, rfl, rfl⟩))

theorem Play.sound_ofKinds (kinds : List κ) : (ofKinds kinds : Play κ ε η).Sound where
  ordered := List.Pairwise.nil
  given := List.Pairwise.nil
  numbered := fun _ hid => (List.not_mem_nil hid).elim
  standing := fun kind id =>
    ⟨fun ⟨_, hs, _⟩ => (List.not_mem_nil hs).elim, fun ⟨_, _, hpast, _⟩ => by
      simp [ofKinds] at hpast⟩
  started := fun _ _ => rfl

theorem Play.Sound.started_concat (h : p.Sound)
    (hreached : ∀ n, p.past.length ≤ n → m.reached? n = none) (n : Nat)
    (hn : (p.past ++ [m]).length ≤ n) : reachedBy n (p.past ++ [m]) = [] := by
  have hle : p.past.length ≤ n := by
    rw [List.length_append] at hn
    exact Nat.le_of_add_right_le hn
  simp [reachedBy_cons, h.started n hle, hreached n hle]

/-- Moments that neither make nor end a subscription. -/
theorem Play.Sound.note (h : p.Sound) (hgiven : m.given? = none)
    (hends : ∀ kind id, ¬ m.Ends kind id)
    (hreached : ∀ n, p.past.length ≤ n → m.reached? n = none) : (p.note m).Sound := by
  have hsame : (p.past ++ [m]).filterMap Moment.given? = p.past.filterMap Moment.given? := by
    simp [hgiven]
  refine ⟨h.ordered, ?_, ?_, fun kind id => (h.standing kind id).trans ?_,
    h.started_concat hreached⟩
  · show ((p.past ++ [m]).filterMap Moment.given?).Pairwise (· < ·)
    rw [hsame]
    exact h.given
  · show ∀ id ∈ (p.past ++ [m]).filterMap Moment.given?, id < p.bus.nextId
    rw [hsame]
    exact h.numbered
  · refine Iff.trans ?_ stands_concat.symm
    refine ⟨fun hstands => .inr ⟨hstands, hends kind id⟩, ?_⟩
    rintro (rfl | ⟨hstands, -⟩)
    · cases hgiven
    · exact hstands

theorem Play.Sound.subscribe [SignalKind κ] (h : p.Sound) {kind : κ} {handler : η} {id : Nat}
    {bus : SignalBus κ η} (hsubscribe : p.bus.subscribe kind handler = .ok (id, bus)) :
    ({ bus, past := p.past ++ [.subscribed kind id] } : Play κ ε η).Sound := by
  obtain ⟨rfl, hnext, hsubs⟩ := SignalBus.subscribe_spec hsubscribe
  have hgiven : (p.past ++ [(.subscribed kind p.bus.nextId : Moment κ ε)]).filterMap
      Moment.given? = p.past.filterMap Moment.given? ++ [p.bus.nextId] := by
    simp [Moment.given?]
  refine ⟨?_, ?_, ?_, fun kind' id' => ?_, h.started_concat fun _ _ => rfl⟩
  · rw [hsubs, List.map_append, List.pairwise_append]
    refine ⟨h.ordered, List.pairwise_singleton _ _, fun a ha b hb => ?_⟩
    obtain ⟨s, hs, rfl⟩ := List.mem_map.1 ha
    rw [List.mem_singleton.1 hb]
    exact h.lt_nextId hs
  · rw [hgiven, List.pairwise_append]
    refine ⟨h.given, List.pairwise_singleton _ _, fun a ha b hb => ?_⟩
    rw [List.mem_singleton.1 hb]
    exact h.numbered a ha
  · intro id hid
    rw [hgiven] at hid
    rw [hnext]
    rcases List.mem_append.1 hid with hold | hnew
    · exact Nat.lt_succ_of_lt (h.numbered id hold)
    · rw [List.mem_singleton.1 hnew]
      exact Nat.lt_succ_self _
  · rw [stands_concat, ← h.standing kind' id', hsubs]
    constructor
    · rintro ⟨s, hs, rfl, rfl⟩
      rcases List.mem_append.1 hs with hold | hnew
      · exact .inr ⟨⟨s, hold, rfl, rfl⟩, by simp [Moment.Ends]⟩
      · rw [List.mem_singleton.1 hnew]
        exact .inl rfl
    · rintro (heq | ⟨⟨s, hs, rfl, rfl⟩, -⟩)
      · cases heq
        exact ⟨_, List.mem_append_right _ (List.mem_singleton.2 rfl), rfl, rfl⟩
      · exact ⟨s, List.mem_append_left _ hs, rfl, rfl⟩

/-- Subscriptions end, none is made. -/
theorem Play.Sound.filter (h : p.Sound) (hgiven : m.given? = none)
    (hreached : ∀ n, m.reached? n = none) (keep : Subscription κ η → Bool)
    (hkeep : ∀ s, keep s = true ↔ ¬ m.Ends s.kind s.id) {bus : SignalBus κ η}
    (hbus : bus.subscriptions = p.bus.subscriptions.filter keep)
    (hnext : bus.nextId = p.bus.nextId) :
    ({ bus, past := p.past ++ [m] } : Play κ ε η).Sound := by
  have hsame : (p.past ++ [m]).filterMap Moment.given? = p.past.filterMap Moment.given? := by
    simp [hgiven]
  refine ⟨?_, ?_, ?_, fun kind id => ?_, h.started_concat fun n _ => hreached n⟩
  · rw [hbus]
    exact h.ordered.sublist ((List.filter_sublist).map _)
  · rw [hsame]
    exact h.given
  · rw [hsame, hnext]
    exact h.numbered
  · rw [stands_concat, ← h.standing kind id, hbus]
    constructor
    · rintro ⟨s, hs, rfl, rfl⟩
      obtain ⟨hmem, hkept⟩ := List.mem_filter.1 hs
      exact .inr ⟨⟨s, hmem, rfl, rfl⟩, (hkeep s).1 hkept⟩
    · rintro (heq | ⟨⟨s, hs, rfl, rfl⟩, hends⟩)
      · rw [heq] at hgiven
        cases hgiven
      · exact ⟨s, List.mem_filter.2 ⟨hs, (hkeep s).2 hends⟩, rfl, rfl⟩

theorem Play.Sound.unsubscribe [SignalKind κ] (h : p.Sound) (kind : κ) (id : Nat) :
    ({ bus := p.bus.unsubscribe kind id, past := p.past ++ [.unsubscribed kind id] } :
      Play κ ε η).Sound := by
  refine h.filter rfl (fun _ => rfl) _ (fun s => ?_) rfl rfl
  rw [Moment.ends_unsubscribed, not_and_or]
  simp

theorem Play.Sound.clear (h : p.Sound) :
    ({ bus := p.bus.clear, past := p.past ++ [.cleared] } : Play κ ε η).Sound := by
  refine h.filter rfl (fun _ => rfl) (fun _ => false) (fun s => ?_) ?_ rfl
  · simp [Moment.Ends]
  · simp [SignalBus.clear]

end Sound

/-! ## Snapshots -/

section Snapshots

variable {κ ε η : Type} [BusEvent ε κ]

/-- The emission that starts at the end of `before` reaches just the subscriptions that stand
there, each once, in the order in which they were made, and before it finishes. -/
def Snapshot (before : List (Moment κ ε)) (event : ε) (after : List (Moment κ ε)) : Prop :=
  ∃ during rest, after = during ++ .finished before.length :: rest ∧
    reachedBy before.length before = [] ∧ reachedBy before.length rest = [] ∧
    (reachedBy before.length during).Pairwise (· < ·) ∧
    ∀ id, id ∈ reachedBy before.length during ↔ Stands before (BusEvent.kind event) id

def Snapshots (past new : List (Moment κ ε)) : Prop :=
  ∀ before event after, new = before ++ .started event :: after →
    Snapshot (past ++ before) event after

variable {past new later : List (Moment κ ε)} {m : Moment κ ε}

theorem Snapshots.nil : Snapshots past [] := fun before event after h => by simp at h

theorem Snapshots.cons (hstart : ∀ event, m = .started event → Snapshot past event new)
    (h : Snapshots (past ++ [m]) new) : Snapshots past (m :: new) := by
  intro before event after heq
  cases before with
  | nil =>
      obtain ⟨rfl, rfl⟩ := List.cons.inj heq
      rw [List.append_nil]
      exact hstart event rfl
  | cons first rest =>
      obtain ⟨rfl, rfl⟩ := List.cons.inj heq
      have hrest := h rest event after rfl
      rwa [List.append_assoc] at hrest

theorem Snapshot.append {before after : List (Moment κ ε)} {event : ε}
    (h : Snapshot before event after) (hlater : reachedBy before.length later = []) :
    Snapshot before event (after ++ later) := by
  obtain ⟨during, rest, rfl, hbefore, hrest, hpairwise, hreached⟩ := h
  exact ⟨during, rest ++ later, by simp, hbefore, by simp [hrest, hlater], hpairwise, hreached⟩

/-- What happens later reaches nobody on behalf of the emissions that are over. -/
theorem Snapshots.append (h : Snapshots past new) (hlater : Snapshots (past ++ new) later)
    (hover : ∀ n, n < (past ++ new).length → past.length ≤ n → reachedBy n later = []) :
    Snapshots past (new ++ later) := by
  induction new generalizing past with
  | nil => simpa using hlater
  | cons m rest ih =>
      refine Snapshots.cons (fun event hm => ?_) (ih ?_ ?_ ?_)
      · subst hm
        have hfirst := h [] event rest rfl
        rw [List.append_nil] at hfirst
        exact hfirst.append (hover _ (by simp) (Nat.le_refl _))
      · intro before event after heq
        have hrest := h (m :: before) event after (by rw [heq]; rfl)
        rwa [List.append_assoc]
      · rwa [List.append_assoc]
      · intro n hn hle
        refine hover n ?_ ?_
        · simpa [List.append_assoc] using hn
        · simp at hle
          omega

end Snapshots

/-! ## Every play -/

section Every

variable {κ ε η : Type} [BusEvent ε κ] {cast : Cast κ ε η} {p p' q : Play κ ε η}

namespace Cast

/-- The handlers that are due have been waiting since before. -/
def Ready (p : Play κ ε η) : Cast κ ε η → Prop
  | anyone => True
  | handlers emission _ _ => emission < p.past.length

def due (n : Nat) : Cast κ ε η → List Nat
  | anyone => []
  | handlers emission _ waiting => if emission = n then waiting.map (·.id) else []

end Cast

/-- From one moment to another the play stays sound, every emission that started is a snapshot,
and of those that were under way just the waiting handlers were reached. -/
structure Proceeding (cast : Cast κ ε η) (p p' : Play κ ε η) (new : List (Moment κ ε)) :
    Prop where
  sound : p'.Sound
  past : p'.past = p.past ++ new
  snapshots : Snapshots p.past new
  reached : ∀ n, n < p.past.length → reachedBy n new = cast.due n

theorem Proceeding.cons {m : Moment κ ε} {bus : SignalBus κ η} {new : List (Moment κ ε)}
    (h : Proceeding .anyone { bus, past := p.past ++ [m] } p' new)
    (hm : ∀ event, m ≠ .started event) (hreached : ∀ n, m.reached? n = none) :
    Proceeding .anyone p p' (m :: new) where
  sound := h.sound
  past := by simp [h.past]
  snapshots := h.snapshots.cons fun event heq => absurd heq (hm event)
  reached := by
    intro n hn
    have hrest : reachedBy n new = [] := h.reached n (by simp; omega)
    simp [reachedBy_cons, hreached n, hrest, Cast.due]

/-- An emission that reaches those who were waiting is a snapshot. -/
theorem Proceeding.emit [SignalKind κ] {event : ε} {during later : List (Moment κ ε)}
    (hsound : p.Sound)
    (hduring : Proceeding (.handlers p.past.length event
      (p.bus.subscriptions.filter (·.kind == BusEvent.kind event))) (p.note (.started event)) q
      during)
    (hlater : Proceeding .anyone (q.note (.finished p.past.length)) p' later) :
    Proceeding .anyone p p' (.started event :: (during ++ .finished p.past.length :: later)) := by
  have hq : q.past = p.past ++ [.started event] ++ during := hduring.past
  have hafter : (q.note (.finished p.past.length)).past =
      p.past ++ [.started event] ++ during ++ [.finished p.past.length] := by
    rw [← hq]
    rfl
  have hlate : ∀ n, n < q.past.length → reachedBy n (.finished p.past.length :: later) = [] := by
    intro n hn
    exact hlater.reached n (by rw [hafter, ← hq]; simp; omega)
  have hreached : reachedBy p.past.length during =
      (p.bus.subscriptions.filter (·.kind == BusEvent.kind event)).map (·.id) := by
    rw [hduring.reached _ (by simp [Play.note])]
    simp [Cast.due]
  refine ⟨hlater.sound, by rw [hlater.past, hafter]; simp, Snapshots.cons ?_ ?_, fun n hn => ?_⟩
  · intro event' heq
    cases heq
    refine ⟨during, later, rfl, hsound.started _ (Nat.le_refl _), ?_, ?_, fun id => ?_⟩
    · exact hlate _ (by rw [hq]; simp)
    · rw [hreached]
      exact hsound.ordered.sublist ((List.filter_sublist).map _)
    · rw [hreached, ← hsound.standing]
      simp only [List.mem_map, List.mem_filter, beq_iff_eq]
      constructor
      · rintro ⟨s, ⟨hs, hkind⟩, rfl⟩
        exact ⟨s, hs, hkind, rfl⟩
      · rintro ⟨s, hs, hkind, rfl⟩
        exact ⟨s, ⟨hs, hkind⟩, rfl⟩
  · refine hduring.snapshots.append (Snapshots.cons (fun _ heq => by cases heq) ?_) ?_
    · have hsnapshots := hlater.snapshots
      rw [hafter] at hsnapshots
      exact hsnapshots
    · intro n hn _
      exact hlate n (by rw [hq]; exact hn)
  · have hfirst : reachedBy n during = [] := by
      rw [hduring.reached n (by simp [Play.note]; omega)]
      simp [Cast.due, Nat.ne_of_gt hn]
    have hrest := hlate n (by rw [hq]; simp; omega)
    simp [reachedBy_cons n (.started event), hfirst, hrest, Moment.reached?, Cast.due]

theorem Proceeding.reach {n : Nat} {event : ε} {s : Subscription κ η}
    {waiting : List (Subscription κ η)} {acts others : List (Moment κ ε)}
    (hacts : Proceeding .anyone (p.note (.reached n event s.id)) q acts)
    (hothers : Proceeding (.handlers n event waiting) q p' others) (hn : n < p.past.length) :
    Proceeding (.handlers n event (s :: waiting)) p p'
      (.reached n event s.id :: (acts ++ others)) := by
  have hq : q.past = p.past ++ [.reached n event s.id] ++ acts := hacts.past
  have hothersReached : ∀ m, m < q.past.length →
      reachedBy m others = if n = m then waiting.map (·.id) else [] := hothers.reached
  refine ⟨hothers.sound, by rw [hothers.past, hq]; simp, Snapshots.cons (by simp) ?_,
    fun m hm => ?_⟩
  · refine hacts.snapshots.append ?_ fun m hm hle => ?_
    · have hsnapshots := hothers.snapshots
      rw [hq] at hsnapshots
      exact hsnapshots
    · have hne : n ≠ m := by
        simp [Play.note] at hle
        omega
      rw [hothersReached m (by rw [hq]; exact hm), if_neg hne]
  · have hfirst : reachedBy m acts = [] := hacts.reached m (by simp [Play.note]; omega)
    have hrest := hothersReached m (by rw [hq]; simp; omega)
    by_cases hsame : n = m <;>
      simp [reachedBy_cons, Moment.reached?, Cast.due, hfirst, hrest, hsame]

theorem proceeding_of_played [SignalKind κ] (h : Played cast p p') (hsound : p.Sound)
    (hready : cast.Ready p) :
    ∃ new, Proceeding cast p p' new := by
  induction h with
  | rest p => exact ⟨[], hsound, by simp, .nil, fun _ _ => rfl⟩
  | subscribe h later ih =>
      obtain ⟨new, hnew⟩ := ih (hsound.subscribe h) trivial
      exact ⟨_, hnew.cons (fun _ heq => by cases heq) fun _ => rfl⟩
  | refuseSubscription h later ih | refuseEmission h later ih =>
      obtain ⟨new, hnew⟩ := ih (hsound.note rfl (by simp [Moment.Ends]) fun _ _ => rfl) trivial
      exact ⟨_, hnew.cons (fun _ heq => by cases heq) fun _ => rfl⟩
  | unsubscribe later ih =>
      obtain ⟨new, hnew⟩ := ih (hsound.unsubscribe _ _) trivial
      exact ⟨_, hnew.cons (fun _ heq => by cases heq) fun _ => rfl⟩
  | clear later ih =>
      obtain ⟨new, hnew⟩ := ih hsound.clear trivial
      exact ⟨_, hnew.cons (fun _ heq => by cases heq) fun _ => rfl⟩
  | emit h during later ihduring ihlater =>
      obtain ⟨moments, hduring⟩ := ihduring
        (hsound.note rfl (by simp [Moment.Ends]) fun _ _ => rfl) (by simp [Cast.Ready, Play.note])
      obtain ⟨rest, hlater⟩ := ihlater
        (hduring.sound.note rfl (by simp [Moment.Ends]) fun _ _ => rfl) trivial
      exact ⟨_, hduring.emit hsound hlater⟩
  | allReached p =>
      exact ⟨[], hsound, by simp, .nil, fun n _ => by simp [Cast.due, reachedBy]⟩
  | reach acts others ihacts ihothers =>
      obtain ⟨moments, hacts⟩ := ihacts (hsound.note rfl (by simp [Moment.Ends]) fun m hm => by
        simp only [Cast.Ready] at hready
        simp [Moment.reached?]
        omega) trivial
      obtain ⟨rest, hothers⟩ := ihothers hacts.sound (by
        simp only [Cast.Ready] at hready ⊢
        rw [hacts.past]
        simp [Play.note]
        omega)
      exact ⟨_, hacts.reach hothers hready⟩

/-- What all plays have in common. A subscription that is made while an emission is under way is
not reached by it, but by the next one of its kind that starts, unless it ends before. -/
structure Faithful (past : List (Moment κ ε)) : Prop where
  given : (past.filterMap Moment.given?).Pairwise (· < ·)
  snapshots : ∀ before event after, past = before ++ .started event :: after →
    Snapshot before event after
  late : ∀ before event after kind id, past = before ++ .started event :: after →
    .subscribed kind id ∈ after → id ∉ reachedBy before.length past
  next : ∀ before kind id between event after,
    past = before ++ .subscribed kind id :: (between ++ .started event :: after) →
    (∀ m ∈ between, ¬ m.Ends kind id) → BusEvent.kind event = kind →
    id ∈ reachedBy (before ++ .subscribed kind id :: between).length past

theorem Snapshot.reachedBy_eq {before after : List (Moment κ ε)} {event : ε}
    (h : Snapshot before event after) :
    ∀ id, id ∈ reachedBy before.length (before ++ .started event :: after) ↔
      Stands before (BusEvent.kind event) id := by
  obtain ⟨during, rest, rfl, hbefore, hrest, -, hreached⟩ := h
  intro id
  have hall : reachedBy before.length (before ++ .started event ::
      (during ++ .finished before.length :: rest)) = reachedBy before.length during := by
    simp [reachedBy_cons, hbefore, hrest, Moment.reached?]
  rw [hall, hreached id]

/-- Whatever handlers do, on whatever bus. -/
theorem faithful_of_played [SignalKind κ] {kinds : List κ}
    (h : Played .anyone (Play.ofKinds kinds) p) : Faithful p.past := by
  obtain ⟨new, hnew⟩ := proceeding_of_played h (Play.sound_ofKinds kinds) trivial
  have hpast : p.past = new := hnew.past
  have hsnapshots : ∀ before event after, p.past = before ++ .started event :: after →
      Snapshot before event after := by
    rw [hpast]
    exact hnew.snapshots
  refine ⟨hnew.sound.given, hsnapshots, fun before event after kind id heq hlate hreached => ?_,
    fun before kind id between event after heq hbetween hkind => ?_⟩
  · have hsnapshot := hsnapshots before event after heq
    rw [heq, hsnapshot.reachedBy_eq] at hreached
    have hgiven := hnew.sound.given
    rw [heq, List.filterMap_append, List.pairwise_append] at hgiven
    have hagain : id ∈ (Moment.started event :: after).filterMap Moment.given? :=
      List.mem_filterMap.2 ⟨.subscribed kind id, List.mem_cons_of_mem _ hlate, rfl⟩
    exact Nat.lt_irrefl id (hgiven.2.2 id (mem_given_of_stands hreached) id hagain)
  · have hsplit : p.past =
        (before ++ .subscribed kind id :: between) ++ .started event :: after := by simp [heq]
    have hsnapshot := hsnapshots _ event after hsplit
    rw [hsplit, hsnapshot.reachedBy_eq]
    exact ⟨before, between, by rw [hkind], hkind ▸ hbetween⟩

end Every

end Coedit
