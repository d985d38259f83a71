import Coedit.Signal.Bus
import Mathlib.Data.List.Basic

/-!
# Buses under other numbers

Two buses with the same handlers in the same order differ only in the numbers of their
subscriptions. Whatever is done to both alike, numbers translated, they go on to differ in nothing
else. A bus whose handlers subscribe anew, in order, is such a copy.
-/

namespace Coedit

/-- Numbers of one bus and the numbers of the same subscriptions on a copy. A number of the first
bus that stands for a subscription that is over has no counterpart. -/
structure Renumbering where
  old : Nat → Nat
  new? : Nat → Option Nat
  new?_eq_some : ∀ {id i}, new? id = some i ↔ old i = id

namespace Renumbering

variable (r : Renumbering)

def same : Renumbering := ⟨id, some, by simp [eq_comm]⟩

theorem old_injective {i j : Nat} (h : r.old i = r.old j) : i = j :=
  Option.some.inj ((r.new?_eq_some.2 rfl).symm.trans (r.new?_eq_some.2 h.symm))

theorem old_ne {id : Nat} (h : r.new? id = none) (i : Nat) : r.old i ≠ id := by
  intro heq
  rw [r.new?_eq_some.2 heq] at h
  cases h

end Renumbering

namespace SignalBus

variable {κ η : Type} {r : Renumbering} {b b' : SignalBus κ η} {kind : κ}

/-- Numbers were given out in increasing order. -/
structure Ordered (bus : SignalBus κ η) : Prop where
  increasing : (bus.subscriptions.map (·.id)).Pairwise (· < ·)
  given : ∀ s ∈ bus.subscriptions, s.id < bus.nextId

/-- The first bus has the subscriptions of the second, under their old numbers. -/
structure Copied (r : Renumbering) (b b' : SignalBus κ η) : Prop where
  declared : b.declared = b'.declared
  subscriptions : b.subscriptions = b'.subscriptions.map fun s => { s with id := r.old s.id }
  next : ∀ i, r.old (b'.nextId + i) = b.nextId + i
  ordered : b'.Ordered

theorem Copied.refl (h : b.Ordered) : Copied .same b b where
  declared := rfl
  subscriptions := (List.map_id _).symm
  next := fun _ => rfl
  ordered := h

theorem Ordered.filter (h : b.Ordered) (keep : Subscription κ η → Bool) :
    ({ b with subscriptions := b.subscriptions.filter keep } : SignalBus κ η).Ordered where
  increasing := h.increasing.sublist (List.filter_sublist.map _)
  given := fun s hs => h.given s (List.mem_filter.1 hs).1

theorem Copied.clear (h : Copied r b b') : Copied r b.clear b'.clear where
  declared := h.declared
  subscriptions := rfl
  next := h.next
  ordered := ⟨List.Pairwise.nil, fun _ hs => (List.not_mem_nil hs).elim⟩

theorem Copied.next_number (h : Copied r b b') : r.old b'.nextId = b.nextId := h.next 0

theorem Ordered.subscribed (h : b.Ordered) (kind : κ) (handler : η) :
    ({ b with
      subscriptions := b.subscriptions ++ [{ id := b.nextId, kind, handler }]
      nextId := b.nextId + 1 } : SignalBus κ η).Ordered where
  increasing := by
    rw [List.map_append, List.pairwise_append]
    refine ⟨h.increasing, List.pairwise_singleton _ _, fun id hid last hlast => ?_⟩
    obtain ⟨s, hs, rfl⟩ := List.mem_map.1 hid
    rw [List.mem_singleton.1 hlast]
    exact h.given s hs
  given := by
    intro s hs
    rcases List.mem_append.1 hs with hold | hnew
    · exact Nat.lt_succ_of_lt (h.given s hold)
    · rw [List.mem_singleton.1 hnew]
      exact Nat.lt_succ_self _

section Kinds

variable [SignalKind κ]

theorem Copied.handlers (h : Copied r b b') (kind : κ) : b.handlers kind = b'.handlers kind := by
  simp only [SignalBus.handlers, h.subscriptions, List.filter_map, List.map_map]
  rfl

theorem Copied.subscriberCount (h : Copied r b b') (kind : κ) :
    b.subscriberCount kind = b'.subscriberCount kind := by
  rw [SignalBus.subscriberCount, h.handlers, SignalBus.subscriberCount]

/-- A subscription is refused on both buses, or made on both. -/
theorem Copied.subscribe (h : Copied r b b') (kind : κ) (handler : η) :
    (∃ cause, b.subscribe kind handler = .error cause ∧
        b'.subscribe kind handler = .error cause) ∨
      ∃ c c', b.subscribe kind handler = .ok (r.old b'.nextId, c) ∧
        b'.subscribe kind handler = .ok (b'.nextId, c') ∧ Copied r c c' ∧
        c'.subscriptions = b'.subscriptions ++ [{ id := b'.nextId, kind, handler }] := by
  have hdeclared : b.checkDeclared kind = b'.checkDeclared kind := by
    unfold checkDeclared isDeclared
    rw [h.declared]
  unfold SignalBus.subscribe
  rw [hdeclared]
  cases b'.checkDeclared kind with
  | error cause => exact .inl ⟨cause, rfl, rfl⟩
  | ok _ =>
      rw [h.next_number]
      refine .inr ⟨_, _, rfl, rfl,
        ⟨h.declared, ?_, fun i => ?_, h.ordered.subscribed kind handler⟩, rfl⟩
      · rw [List.map_append, ← h.subscriptions, List.map_singleton, h.next_number]
      · show r.old (b'.nextId + 1 + i) = b.nextId + 1 + i
        rw [Nat.add_assoc, h.next, Nat.add_assoc]

theorem Copied.unsubscribe (h : Copied r b b') (kind : κ) (id : Nat) :
    Copied r (b.unsubscribe kind (r.old id)) (b'.unsubscribe kind id) where
  declared := h.declared
  subscriptions := by
    simp only [SignalBus.unsubscribe, h.subscriptions, List.filter_map]
    congr 1
    refine List.filter_congr fun s _ => ?_
    have hsame : (r.old s.id == r.old id) = (s.id == id) := by
      by_cases hid : s.id = id
      · simp [hid]
      · have hne : r.old s.id ≠ r.old id := fun heq => hid (r.old_injective heq)
        simp [hid, hne]
    simp [hsame]
  next := h.next
  ordered := h.ordered.filter _

/-- To end a subscription that is over already changes nothing. -/
theorem Copied.unsubscribe_stale (h : Copied r b b') (kind : κ) {id : Nat}
    (hid : r.new? id = none) : b.unsubscribe kind id = b := by
  have hall : b.subscriptions.filter (fun s => !(s.kind == kind && s.id == id)) =
      b.subscriptions := by
    refine List.filter_eq_self.2 fun s hs => ?_
    rw [h.subscriptions] at hs
    obtain ⟨s', -, rfl⟩ := List.mem_map.1 hs
    simp [r.old_ne hid]
  rw [SignalBus.unsubscribe, hall]

end Kinds

/-! ## Subscribing anew -/

/-- A bus without history on which the same handlers subscribed in the same order. -/
def renewed (bus : SignalBus κ η) : SignalBus κ η where
  declared := bus.declared
  subscriptions := bus.subscriptions.mapIdx fun i s => { s with id := i }
  nextId := bus.subscriptions.length

def numbers (bus : SignalBus κ η) : List Nat := bus.subscriptions.map (·.id)

def oldNumber (bus : SignalBus κ η) (i : Nat) : Nat :=
  bus.numbers[i]?.getD (bus.nextId + (i - bus.numbers.length))

def newNumber? (bus : SignalBus κ η) (id : Nat) : Option Nat :=
  if id < bus.nextId then bus.numbers.idxOf? id
  else some (bus.numbers.length + (id - bus.nextId))

theorem Ordered.lt_nextId (h : b.Ordered) {id : Nat} (hid : id ∈ b.numbers) : id < b.nextId := by
  obtain ⟨s, hs, rfl⟩ := List.mem_map.1 hid
  exact h.given s hs

theorem Ordered.newNumber?_eq_some (h : b.Ordered) {id i : Nat} :
    b.newNumber? id = some i ↔ b.oldNumber i = id := by
  unfold newNumber? oldNumber
  by_cases hi : i < b.numbers.length
  · have hlt : b.numbers[i] < b.nextId := h.lt_nextId (List.getElem_mem hi)
    rw [List.getElem?_eq_getElem hi, Option.getD_some]
    constructor
    · intro heq
      split at heq
      · obtain ⟨_, hat, -⟩ := List.idxOf?_eq_some_iff.1 heq
        exact hat
      · have hlen := Option.some.inj heq
        omega
    · rintro rfl
      rw [if_pos hlt]
      refine List.idxOf?_eq_some_iff.2 ⟨hi, rfl, fun j hj => ?_⟩
      exact Nat.ne_of_lt (List.pairwise_iff_getElem.1 h.increasing j i _ hi hj)
  · rw [List.getElem?_eq_none (Nat.le_of_not_lt hi), Option.getD_none]
    constructor
    · intro heq
      split at heq
      · obtain ⟨hbound, -⟩ := List.idxOf?_eq_some_iff.1 heq
        exact absurd hbound hi
      · have hlen := Option.some.inj heq
        omega
    · rintro rfl
      rw [if_neg (by omega)]
      exact congrArg some (by omega)

def Ordered.renumbering (h : b.Ordered) : Renumbering where
  old := b.oldNumber
  new? := b.newNumber?
  new?_eq_some := h.newNumber?_eq_some

theorem Ordered.copied_renewed (h : b.Ordered) : Copied h.renumbering b b.renewed where
  declared := rfl
  subscriptions := by
    refine List.ext_getElem (by simp [renewed]) fun i hi _ => ?_
    have hnumber : b.oldNumber i = b.subscriptions[i].id := by
      simp [oldNumber, numbers, hi]
    simp [renewed, renumbering, hnumber]
  next := by
    intro i
    simp [renewed, renumbering, oldNumber, numbers]
  ordered := by
    constructor
    · rw [List.pairwise_iff_getElem]
      intro i j _ _ hij
      simpa [renewed] using hij
    · intro s hs
      obtain ⟨i, hi, rfl⟩ := List.mem_iff_getElem.1 hs
      simpa [renewed] using hi

end SignalBus

end Coedit
