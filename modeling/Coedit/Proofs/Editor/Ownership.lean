import Coedit.Proofs.Session.Creation
import Coedit.Proofs.Workspace.Quiet

/-!
# Subscriptions and their owners

A session keeps a record of its subscriptions to the engine, and so does its input controller.
Every subscription on the engine's bus is an old one, or an observer's, or recorded by somebody
who will end it.
-/

namespace Coedit

def Session.records (s : Session) : List (EngineSignal × Nat) :=
  s.subscriptions ++ s.input.undoSubscription.toList.map fun id => (.undoStackChanged, id)

namespace Workspace

/-- The subscriptions on the engine's bus that are not among those of `base` belong to observers,
or are recorded. -/
def Owned (base : List (Subscription EngineSignal EngineListener))
    (records : List (EngineSignal × Nat)) (w : Workspace) : Prop :=
  ∀ s ∈ w.engine.bus.subscriptions,
    s ∈ base ∨ (∃ id, s.handler = .observer id) ∨ (s.kind, s.id) ∈ records

section Owned

variable {base : List (Subscription EngineSignal EngineListener)}
  {records records' : List (EngineSignal × Nat)} {w w' : Workspace}

theorem Owned.mono (h : Owned base records w) (hrecords : ∀ r ∈ records, r ∈ records') :
    Owned base records' w := by
  intro s hs
  rcases h s hs with hbase | hobserver | hrecord
  · exact .inl hbase
  · exact .inr (.inl hobserver)
  · exact .inr (.inr (hrecords _ hrecord))

theorem Owned.congr (h : Owned base records w) (hbus : w'.engine.bus = w.engine.bus) :
    Owned base records w' := by
  unfold Owned
  rw [hbus]
  exact h

theorem owned_subscribed (h : Owned base records w) (signal : EngineSignal)
    (listener : EngineListener) :
    Owned base ((signal, w.engine.bus.nextId) :: records)
      { w with engine := subscribed w.engine signal listener } := by
  intro s hs
  rcases List.mem_append.1 hs with hold | hnew
  · exact (h.mono fun r hr => List.mem_cons_of_mem _ hr) s hold
  · rw [List.mem_singleton.1 hnew]
    exact .inr (.inr List.mem_cons_self)

theorem owned_observed (h : Owned base records w) (signal : EngineSignal) (observer : Nat) :
    Owned base records
      { w with engine := subscribed w.engine signal (.observer observer) } := by
  intro s hs
  rcases List.mem_append.1 hs with hold | hnew
  · exact h s hold
  · rw [List.mem_singleton.1 hnew]
    exact .inr (.inl ⟨observer, rfl⟩)

/-- What is unsubscribed needs no record. -/
theorem owned_unsubscribe {signal : EngineSignal} {id : Nat}
    (h : Owned base ((signal, id) :: records) w) : Owned base records (w.unsubscribe signal id) := by
  intro s hs
  obtain ⟨hold, hother⟩ := List.mem_filter.1 hs
  rcases h s hold with hbase | hobserver | hrecord
  · exact .inl hbase
  · exact .inr (.inl hobserver)
  · rcases List.mem_cons.1 hrecord with heq | hrecord
    · obtain ⟨rfl, rfl⟩ := Prod.mk.inj heq
      simp at hother
    · exact .inr (.inr hrecord)

theorem owned_unsubscribeAll {made : List (EngineSignal × Nat)}
    (h : Owned base (made ++ records) w) :
    Owned base records (made.foldl (fun w s => w.unsubscribe s.1 s.2) w) := by
  induction made generalizing w with
  | nil => exact h
  | cons first rest ih => exact ih (owned_unsubscribe h)

/-- Unsubscribing changes nothing but the subscriptions on the engine's bus. -/
theorem unsubscribeAll_eq (made : List (EngineSignal × Nat)) (w : Workspace) :
    ∃ bus, made.foldl (fun w s => w.unsubscribe s.1 s.2) w =
      { w with engine := { w.engine with bus } } ∧ bus.declared = w.engine.bus.declared := by
  induction made generalizing w with
  | nil => exact ⟨w.engine.bus, rfl, rfl⟩
  | cons first rest ih =>
      obtain ⟨bus, heq, hdeclared⟩ := ih (w.unsubscribe first.1 first.2)
      exact ⟨bus, heq, hdeclared⟩

end Owned

end Workspace

end Coedit
