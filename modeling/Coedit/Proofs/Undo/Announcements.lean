import Coedit.Proofs.Signal.Play
import Coedit.Undo.Basic
import Mathlib.Algebra.Ring.Parity

/-!
# What listeners of the modified flag hear last

A listener that sets the flag itself has that announced to all others before the announcement that
it heard goes on to those behind it. So a listener may hear last of a value that has been replaced:
what it heard last is right just if the flag was changed an even number of times while that
announcement was on its way to it.
-/

namespace Coedit

/-- The flag's new value is all that there is to an announcement. -/
instance modifiedFlagOnBus : BusEvent Bool ModifiedSignal where
  kind _ := .modifiedChanged

/-- Whether an announcement begins. -/
def Moment.isStart {κ ε : Type} : Moment κ ε → Bool
  | started _ => true
  | _ => false

def changes (moments : List (Moment ModifiedSignal Bool)) : Nat := moments.countP Moment.isStart

theorem changes_append (first second : List (Moment ModifiedSignal Bool)) :
    changes (first ++ second) = changes first + changes second :=
  List.countP_append

theorem changes_cons (m : Moment ModifiedSignal Bool) (rest : List (Moment ModifiedSignal Bool)) :
    changes (m :: rest) = changes rest + if m.isStart then 1 else 0 :=
  List.countP_cons

structure ManagerPlay (η : Type) where
  manager : UndoManager η := {}
  past : List (Moment ModifiedSignal Bool) := []

namespace ManagerPlay

variable {η : Type}

def play (p : ManagerPlay η) : Play ModifiedSignal Bool η :=
  { bus := p.manager.bus, past := p.past }

def note (m : Moment ModifiedSignal Bool) (p : ManagerPlay η) : ManagerPlay η :=
  { p with past := p.past ++ [m] }

end ManagerPlay

variable {η : Type}

/-- All that can come of an undo manager whose listeners act as they like. Setting the flag to what
it is already is not announced. -/
inductive Managed : Cast ModifiedSignal Bool η → ManagerPlay η → ManagerPlay η → Prop where
  | rest (p) : Managed .anyone p p
  | subscribe {p p'} {handler : η} {id : Nat} {manager : UndoManager η}
      (h : p.manager.subscribe handler = .ok (id, manager))
      (later : Managed .anyone
        { manager, past := p.past ++ [.subscribed .modifiedChanged id] } p') :
      Managed .anyone p p'
  | unsubscribe {p p'} {id : Nat}
      (later : Managed .anyone
        { manager := p.manager.unsubscribe id
          past := p.past ++ [.unsubscribed .modifiedChanged id] } p') :
      Managed .anyone p p'
  | keep {p p'} {modified : Bool} {manager : UndoManager η}
      (h : p.manager.setModified modified = (manager, false))
      (later : Managed .anyone { p with manager } p') : Managed .anyone p p'
  | change {p q p'} {modified : Bool} {manager : UndoManager η}
      (h : p.manager.setModified modified = (manager, true))
      (during : Managed
        (.handlers p.past.length modified
          (manager.bus.subscriptions.filter (·.kind == .modifiedChanged)))
        { manager, past := p.past ++ [.started modified] } q)
      (later : Managed .anyone (q.note (.finished p.past.length)) p') : Managed .anyone p p'
  | allReached {n modified} (p) : Managed (.handlers n modified []) p p
  | reach {n modified p q p'} {s : Subscription ModifiedSignal η}
      {waiting : List (Subscription ModifiedSignal η)}
      (acts : Managed .anyone (p.note (.reached n modified s.id)) q)
      (others : Managed (.handlers n modified waiting) q p') :
      Managed (.handlers n modified (s :: waiting)) p p'

/-- What happens goes on from what happened. -/
theorem Managed.trans {p q r : ManagerPlay η} (h : Managed .anyone p q)
    (h' : Managed .anyone q r) : Managed .anyone p r := by
  generalize hcast : (Cast.anyone : Cast ModifiedSignal Bool η) = cast at h
  induction h with
  | rest p => exact h'
  | subscribe hsub _ ih => exact .subscribe hsub (ih h' rfl)
  | unsubscribe _ ih => exact .unsubscribe (ih h' rfl)
  | keep hset _ ih => exact .keep hset (ih h' rfl)
  | change hset during _ _ ih => exact .change hset during (ih h' rfl)
  | allReached => cases hcast
  | reach => cases hcast

/-! ## The bus of a manager -/

namespace UndoManager

variable {m m' : UndoManager η} {modified : Bool}

theorem setModified_kept (h : m.setModified modified = (m', false)) : m' = m := by
  unfold setModified at h
  split at h
  · exact (congrArg Prod.fst h).symm
  · cases h

theorem setModified_changed (h : m.setModified modified = (m', true)) :
    m.modified = !modified ∧ m' = { m with modified } := by
  unfold setModified at h
  split at h
  · cases h
  · rename_i hne
    exact ⟨by simpa [Bool.eq_not] using hne, (congrArg Prod.fst h).symm⟩

theorem subscribe_spec {handler : η} {id : Nat} (h : m.subscribe handler = .ok (id, m')) :
    m.bus.subscribe .modifiedChanged handler = .ok (id, m'.bus) ∧ m'.modified = m.modified := by
  unfold subscribe at h
  split at h
  · cases h
  · rename_i hsubscribe
    cases h
    exact ⟨hsubscribe, rfl⟩

end UndoManager

section Managed

variable {cast : Cast ModifiedSignal Bool η} {p p' : ManagerPlay η}

/-- What happens on the bus of a manager is a play. -/
theorem Managed.played (h : Managed cast p p')
    (hdeclared : p.manager.bus.declared = [.modifiedChanged]) :
    Played cast p.play p'.play ∧ p'.manager.bus.declared = [.modifiedChanged] := by
  induction h with
  | rest p => exact ⟨.rest _, hdeclared⟩
  | subscribe h later ih =>
      obtain ⟨hsubscribe, -⟩ := UndoManager.subscribe_spec h
      obtain ⟨hplayed, hafter⟩ := ih ((SignalBus.declared_of_subscribe hsubscribe).trans hdeclared)
      exact ⟨.subscribe hsubscribe hplayed, hafter⟩
  | unsubscribe later ih =>
      obtain ⟨hplayed, hafter⟩ := ih hdeclared
      exact ⟨.unsubscribe hplayed, hafter⟩
  | keep h later ih =>
      cases UndoManager.setModified_kept h
      exact ih hdeclared
  | @change p q p' modified manager h during later ihduring ihlater =>
      obtain ⟨-, rfl⟩ := UndoManager.setModified_changed h
      obtain ⟨hduring, hbetween⟩ := ihduring hdeclared
      obtain ⟨hlater, hafter⟩ := ihlater hbetween
      have hcheck : p.play.bus.checkDeclared .modifiedChanged = .ok () := by
        simp [SignalBus.checkDeclared, SignalBus.isDeclared, ManagerPlay.play, hdeclared]
      exact ⟨.emit hcheck hduring hlater, hafter⟩
  | allReached p => exact ⟨.allReached _, hdeclared⟩
  | reach acts others ihacts ihothers =>
      obtain ⟨hacts, hbetween⟩ := ihacts hdeclared
      obtain ⟨hothers, hafter⟩ := ihothers hbetween
      exact ⟨.reach hacts hothers, hafter⟩

theorem Managed.past_grows (h : Managed cast p p') : ∃ new, p'.past = p.past ++ new := by
  induction h with
  | rest p => exact ⟨[], (List.append_nil _).symm⟩
  | allReached p => exact ⟨[], (List.append_nil _).symm⟩
  | subscribe _ _ ih | unsubscribe _ ih =>
      obtain ⟨new, hnew⟩ := ih
      exact ⟨_, hnew.trans (List.append_assoc _ _ _)⟩
  | keep _ _ ih => exact ih
  | change _ _ _ ihduring ihlater =>
      obtain ⟨first, hfirst⟩ := ihduring
      obtain ⟨rest, hrest⟩ := ihlater
      simp only [ManagerPlay.note, hfirst, List.append_assoc] at hrest
      exact ⟨_, hrest⟩
  | reach _ _ ihacts ihothers =>
      obtain ⟨first, hfirst⟩ := ihacts
      obtain ⟨rest, hrest⟩ := ihothers
      simp only [ManagerPlay.note, hfirst, List.append_assoc] at hrest
      exact ⟨_, hrest⟩

/-! ## What is announced -/

/-- Changes take turns: the flag is what the number of changes says, and so is what was announced.
Everybody is reached on behalf of an announcement that was made before. -/
structure ManagerPlay.Mirrored (p : ManagerPlay η) : Prop where
  flag : p.manager.modified = true ↔ Odd (changes p.past)
  value : ∀ before modified after, p.past = before ++ .started modified :: after →
    (modified = true ↔ Even (changes before))
  announced : ∀ before n modified id after, p.past = before ++ .reached n modified id :: after →
    before[n]? = some (.started modified)

theorem ManagerPlay.mirrored_start : ({} : ManagerPlay η).Mirrored where
  flag := by simp [changes]
  value := fun before modified after h => by simp at h
  announced := fun before n modified id after h => by simp at h

/-- One more moment at which the flag stays as it is. -/
theorem ManagerPlay.Mirrored.concat (h : p.Mirrored) {m : Moment ModifiedSignal Bool}
    {manager : UndoManager η} (hmanager : manager.modified = p.manager.modified)
    (hstart : m.isStart = false)
    (hreached : ∀ n modified id, m = .reached n modified id →
      p.past[n]? = some (.started modified)) :
    ({ manager, past := p.past ++ [m] } : ManagerPlay η).Mirrored where
  flag := by
    rw [hmanager, h.flag, changes_append, changes_cons, hstart]
    rfl
  value := by
    intro before modified after heq
    rcases split_concat heq with ⟨-, rfl, -⟩ | ⟨after', -, hpast⟩
    · cases hstart
    · exact h.value before modified after' hpast
  announced := by
    intro before n modified id after heq
    rcases split_concat heq with ⟨rfl, hm, -⟩ | ⟨after', -, hpast⟩
    · exact hreached n modified id hm
    · exact h.announced before n modified id after' hpast

/-- A change, and with it the announcement of the new value. -/
theorem ManagerPlay.Mirrored.change (h : p.Mirrored) {modified : Bool} {manager : UndoManager η}
    (hset : p.manager.setModified modified = (manager, true)) :
    ({ manager, past := p.past ++ [.started modified] } : ManagerPlay η).Mirrored := by
  obtain ⟨hother, rfl⟩ := UndoManager.setModified_changed hset
  have hnow : modified = true ↔ Even (changes p.past) := by
    rw [← Nat.not_odd_iff_even, ← h.flag, hother]
    cases modified <;> simp
  refine ⟨?_, fun before value after heq => ?_, fun before n value id after heq => ?_⟩
  · show modified = true ↔ Odd (changes (p.past ++ [.started modified]))
    rw [hnow, changes_append, ← Nat.not_odd_iff_even, ← Nat.odd_add_one]
    rfl
  · rcases split_concat heq with ⟨rfl, hm, -⟩ | ⟨after', -, hpast⟩
    · cases hm
      exact hnow
    · exact h.value before value after' hpast
  · rcases split_concat heq with ⟨-, hm, -⟩ | ⟨after', -, hpast⟩
    · cases hm
    · exact h.announced before n value id after' hpast

/-- The handlers that are due are so on behalf of an announcement that was made. -/
def Cast.Announced (p : ManagerPlay η) : Cast ModifiedSignal Bool η → Prop
  | anyone => True
  | handlers n modified _ => p.past[n]? = some (.started modified)

theorem Managed.mirrored (h : Managed cast p p') (hp : p.Mirrored) (hcast : cast.Announced p) :
    p'.Mirrored := by
  induction h with
  | rest p => exact hp
  | allReached p => exact hp
  | subscribe h later ih =>
      exact ih (hp.concat (UndoManager.subscribe_spec h).2 rfl (by simp)) trivial
  | unsubscribe later ih => exact ih (hp.concat rfl rfl (by simp)) trivial
  | keep h later ih =>
      cases UndoManager.setModified_kept h
      exact ih hp trivial
  | change h during later ihduring ihlater =>
      exact ihlater ((ihduring (hp.change h) (by simp [Cast.Announced])).concat rfl rfl (by simp))
        trivial
  | @reach n modified p q p' s waiting acts others ihacts ihothers =>
      have hq := ihacts (hp.concat rfl rfl fun n' modified' id heq => by cases heq; exact hcast)
        trivial
      obtain ⟨new, hnew⟩ := acts.past_grows
      refine ihothers hq ?_
      have hlt : n < p.past.length := (List.getElem?_eq_some_iff.1 hcast).1
      show q.past[n]? = _
      rw [hnew, ManagerPlay.note, List.append_assoc, List.getElem?_append_left hlt]
      exact hcast

/-! ## Who is right in the end -/

/-- What came of a new manager, seen from outside when nothing is under way. -/
structure ManagerPlay.Settled (p : ManagerPlay η) : Prop where
  mirrored : p.Mirrored
  sound : p.play.Sound
  faithful : Faithful p.past

theorem Managed.settled (h : Managed .anyone {} p) : p.Settled := by
  obtain ⟨hplayed, -⟩ := h.played rfl
  obtain ⟨new, hnew⟩ := proceeding_of_played hplayed (Play.sound_ofKinds _) trivial
  exact ⟨h.mirrored ManagerPlay.mirrored_start trivial, hnew.sound, faithful_of_played hplayed⟩

section Settled

variable {s : Subscription ModifiedSignal η} {before after : List (Moment ModifiedSignal Bool)}
  {n : Nat} {modified : Bool}

/-- Who is reached was subscribed when the announcement was made. -/
theorem ManagerPlay.Settled.exists_start (h : p.Settled) {id : Nat}
    (hreached : p.past = before ++ .reached n modified id :: after) :
    ∃ earlier between, before = earlier ++ .started modified :: between ∧ earlier.length = n ∧
      Stands earlier .modifiedChanged id := by
  have hstart := h.mirrored.announced before n modified id after hreached
  obtain ⟨hlt, hget⟩ := List.getElem?_eq_some_iff.1 hstart
  have hsplit : before = before.take n ++ .started modified :: before.drop (n + 1) := by
    rw [← hget, ← List.drop_eq_getElem_cons hlt, List.take_append_drop]
  have hlength : (before.take n).length = n := List.length_take_of_le (Nat.le_of_lt hlt)
  refine ⟨before.take n, before.drop (n + 1), hsplit, hlength, ?_⟩
  have hpast : p.past = before.take n ++ .started modified ::
      (before.drop (n + 1) ++ .reached n modified id :: after) := by
    rw [hreached]
    nth_rewrite 1 [hsplit]
    simp
  have hsnapshot := h.faithful.snapshots _ _ _ hpast
  rw [← hsnapshot.reachedBy_eq id, ← hpast, hlength, mem_reachedBy]
  exact ⟨modified, by simp [hreached]⟩

/-- Nobody who is subscribed misses a change: after the last announcement that reached a listener
the flag was not changed. -/
theorem ManagerPlay.Settled.unchanged_since (h : p.Settled) (hs : s ∈ p.manager.bus.subscriptions)
    (hlast : p.past = before ++ .reached n modified s.id :: after)
    (hnone : ∀ m value, .reached m value s.id ∉ after) : changes after = 0 := by
  refine List.countP_eq_zero.2 fun m hm hstart => ?_
  obtain ⟨first, rest, rfl⟩ := List.append_of_mem hm
  cases m with
  | started value =>
      have hpast : p.past =
          (before ++ .reached n modified s.id :: first) ++ .started value :: rest := by
        simp [hlast]
      have hstands : Stands p.past .modifiedChanged s.id :=
        (h.sound.standing .modifiedChanged s.id).1 ⟨s, hs, rfl, rfl⟩
      rw [hpast, stands_append] at hstands
      rcases hstands with hagain | ⟨hbefore, -⟩
      · obtain ⟨earlier, between, hbefore, -, hthen⟩ := h.exists_start hlast
        have hgiven := h.sound.given
        have horder : p.play.past = earlier ++ (.started modified :: between ++
            .reached n modified s.id :: first ++ .started value :: rest) := by
          show p.past = _
          simp [hpast, hbefore]
        rw [horder, List.filterMap_append, List.pairwise_append] at hgiven
        refine Nat.lt_irrefl s.id (hgiven.2.2 s.id (mem_given_of_stands hthen) s.id ?_)
        rw [List.filterMap_append]
        exact List.mem_append_right _ (mem_given_of_stands hagain)
      · obtain ⟨during, later, hrest, -, -, -, hreached⟩ := h.faithful.snapshots _ _ _ hpast
        obtain ⟨value', hmem⟩ := mem_reachedBy.1 ((hreached s.id).2 hbefore)
        have hagain : .reached (before ++ .reached n modified s.id :: first).length value' s.id ∈
            rest := by
          rw [hrest]
          exact List.mem_append_left _ hmem
        exact hnone _ value' (List.mem_append_right _ (List.mem_cons_of_mem _ hagain))
  | _ => cases hstart

/-- What a listener heard last is the value of the flag just if the flag was changed an even number
of times while that announcement was on its way to it. -/
theorem ManagerPlay.Settled.last_heard_iff (h : p.Settled) (hs : s ∈ p.manager.bus.subscriptions)
    (hlast : p.past = before ++ .reached n modified s.id :: after)
    (hnone : ∀ m value, .reached m value s.id ∉ after) :
    modified = p.manager.modified ↔ Even (changes (before.drop (n + 1))) := by
  have hafter := h.unchanged_since hs hlast hnone
  obtain ⟨earlier, between, rfl, rfl, -⟩ := h.exists_start hlast
  have hvalue := h.mirrored.value earlier modified
    (between ++ .reached earlier.length modified s.id :: after) (by simp [hlast])
  have hcount : changes p.past = changes earlier + changes between + 1 := by
    rw [hlast, changes_append, changes_append, changes_cons, changes_cons, hafter]
    simp only [Moment.isStart, if_true, Bool.false_eq_true, if_false]
    omega
  have hbetween : (earlier ++ .started modified :: between).drop (earlier.length + 1) = between := by
    rw [← List.drop_drop, List.drop_left]
    rfl
  rw [hbetween, Bool.eq_iff_iff, hvalue, h.mirrored.flag, hcount, Nat.even_iff, Nat.odd_iff,
    Nat.even_iff]
  omega

end Settled

end Managed

end Coedit
