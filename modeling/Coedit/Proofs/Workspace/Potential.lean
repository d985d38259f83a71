import Coedit.Proofs.Dict
import Coedit.Workspace.Execution

/-!
# The work that is left in a workspace

`Workspace.potential` counts the queued batches and the commands that observers can still
give. Delivering an event never raises it, since an observer pays for its commands when it
answers; therefore as many rounds as the potential counts empty the queue, and commands nest
no deeper than that. `Mild` and `Costs` state both facts of a function together: it does not
raise the potential, or not by more than its cost, and it carries out commands only where
the potential allows for them.
-/

namespace Coedit

namespace Engine

theorem applyNext?_of_nil {e : Engine EngineListener} (h : e.pending = []) :
    e.applyNext? = none := by
  unfold applyNext?
  rw [h]

theorem applyNext?_of_cons {e : Engine EngineListener} {batch : Batch} {rest : List Batch}
    (h : e.pending = batch :: rest) :
    e.applyNext? = some ((e.replica.applyBatch batch).2,
      { e with replica := (e.replica.applyBatch batch).1, pending := rest }) := by
  unfold applyNext?
  rw [h]

theorem applyNext?_cases (e : Engine EngineListener) :
    (e.pending = [] ∧ e.applyNext? = none) ∨
      ∃ batch rest, e.pending = batch :: rest ∧
        e.applyNext? = some ((e.replica.applyBatch batch).2,
          { e with replica := (e.replica.applyBatch batch).1, pending := rest }) := by
  cases h : e.pending with
  | nil => exact .inl ⟨rfl, applyNext?_of_nil h⟩
  | cons batch rest => exact .inr ⟨batch, rest, rfl, applyNext?_of_cons h⟩

theorem length_pending_applyNext? {e e' : Engine EngineListener} {events : List EngineEvent}
    (h : e.applyNext? = some (events, e')) : e.pending.length = e'.pending.length + 1 := by
  obtain ⟨-, hnone⟩ | ⟨batch, rest, hpending, hsome⟩ := e.applyNext?_cases
  · cases hnone.symm.trans h
  · cases hsome.symm.trans h
    rw [hpending]
    rfl

theorem pending_of_applyNext?_eq_none {e : Engine EngineListener} (h : e.applyNext? = none) :
    e.pending = [] := by
  obtain ⟨hpending, -⟩ | ⟨batch, rest, -, hsome⟩ := e.applyNext?_cases
  · exact hpending
  · cases hsome.symm.trans h

end Engine

namespace Workspace

/-! ## The potential and its parts -/

theorem potential_eq (w : Workspace) :
    w.potential = w.observers.sum observerPotential + w.engine.pending.length := by
  unfold potential Dict.sum
  induction w.observers.toList with
  | nil => simp
  | cons e rest ih =>
      simp only [List.foldr_cons, ih]
      omega

@[simp] theorem potential_interfaceNote (frontend : Frontend) (note : InterfaceNote)
    (w : Workspace) : (w.interfaceNote frontend note).potential = w.potential := by
  cases frontend <;> rfl

@[simp] theorem potential_modifyEditor (f : Editor → Editor) (w : Workspace) :
    (w.modifyEditor f).potential = w.potential := rfl

@[simp] theorem potential_unsubscribe (signal : EngineSignal) (id : Nat) (w : Workspace) :
    (w.unsubscribe signal id).potential = w.potential := rfl

theorem potential_applyNext? {w : Workspace} {e : Engine EngineListener}
    {events : List EngineEvent} (h : w.engine.applyNext? = some (events, e)) :
    w.potential = { w with engine := e }.potential + 1 := by
  have hp := Engine.length_pending_applyNext? h
  rw [potential_eq, potential_eq]
  simp only
  omega

theorem potential_addObserver (label : String) (actions : List Command) (times : Nat)
    (w : Workspace) :
    (w.addObserver label actions times).potential ≤
      w.potential + times * Command.weights actions := by
  have h := Dict.sum_insert observerPotential w.observers w.nextId
    { label, actions, remaining := times }
  rw [potential_eq, potential_eq]
  simp only [addObserver]
  simp only [observerPotential] at h ⊢
  omega

/-- An observer that answers an event pays for the commands that it gives. -/
theorem potential_answer {w : Workspace} {id : Nat} {o : Observer Command}
    (h : w.observers.get? id = some o) :
    { w with observers := w.observers.insert id o.answer.2 }.potential +
      Command.weights o.answer.1 = w.potential := by
  have hsum := Dict.sum_insert observerPotential w.observers id o.answer.2
  simp only [h, Option.elim_some] at hsum
  have hpay : observerPotential o.answer.2 + Command.weights o.answer.1 = observerPotential o := by
    by_cases hr : o.remaining = 0
    · simp [Observer.answer_of_spent hr, Command.weights]
    · obtain ⟨n, hn⟩ := Nat.exists_eq_succ_of_ne_zero hr
      rw [Observer.answer_of_remaining (by omega)]
      simp only [observerPotential, hn, Nat.succ_sub_one, Nat.succ_mul]
  rw [potential_eq, potential_eq]
  simp only
  omega

/-! ## Conducts that pay for what they do -/

def Frugal (act : Conduct) : Prop := ∀ c w, (act c w).2.potential ≤ w.potential + c.weight

def AgreeUpTo (bound : Nat) (act act' : Conduct) : Prop :=
  ∀ c w, w.potential + c.weight ≤ bound → act c w = act' c w

/-- Raises the potential by at most `cost`, and carries out commands only within that. -/
def Costs {α : Type} (cost : Nat) (f : Conduct → Workspace → α × Workspace) : Prop :=
  ∀ ⦃act act' : Conduct⦄ ⦃bound : Nat⦄, Frugal act → AgreeUpTo bound act act' →
    ∀ w, w.potential + cost ≤ bound →
      f act w = f act' w ∧ (f act w).2.potential ≤ w.potential + cost

def Mild (f : Conduct → Workspace → Workspace) : Prop :=
  ∀ ⦃act act' : Conduct⦄ ⦃bound : Nat⦄, Frugal act → AgreeUpTo bound act act' →
    ∀ w, w.potential ≤ bound → f act w = f act' w ∧ (f act w).potential ≤ w.potential

theorem agreeUpTo_refl (bound : Nat) (act : Conduct) : AgreeUpTo bound act act :=
  fun _ _ _ => rfl

theorem Mild.potential_le {f : Conduct → Workspace → Workspace} (h : Mild f) {act : Conduct}
    (frugal : Frugal act) (w : Workspace) : (f act w).potential ≤ w.potential :=
  (h frugal (agreeUpTo_refl _ act) w (Nat.le_refl _)).2

theorem Costs.mono {α : Type} {cost cost' : Nat} {f : Conduct → Workspace → α × Workspace}
    (h : Costs cost f) (hle : cost ≤ cost') : Costs cost' f := by
  intro act act' bound frugal agree w hw
  obtain ⟨heq, hpot⟩ := h frugal agree w (by omega)
  exact ⟨heq, by omega⟩

theorem Mild.id : Mild fun _ w => w := fun _ _ _ _ _ _ _ => ⟨rfl, Nat.le_refl _⟩

/-- Work that gives no commands only has to keep the potential. -/
theorem Mild.of_le {f : Workspace → Workspace} (h : ∀ w, (f w).potential ≤ w.potential) :
    Mild fun _ => f := fun _ _ _ _ _ w _ => ⟨rfl, h w⟩

theorem Costs.of_le {α : Type} {cost : Nat} {f : Workspace → α × Workspace}
    (h : ∀ w, (f w).2.potential ≤ w.potential + cost) : Costs cost fun _ => f :=
  fun _ _ _ _ _ w _ => ⟨rfl, h w⟩

theorem Mild.comp {f g : Conduct → Workspace → Workspace} (hg : Mild g) (hf : Mild f) :
    Mild fun act w => g act (f act w) := by
  intro act act' bound frugal agree w hw
  obtain ⟨hfst, hpot⟩ := hf frugal agree w hw
  obtain ⟨hsnd, hpot'⟩ := hg frugal agree (f act w) (by omega)
  constructor
  · show g act (f act w) = g act' (f act' w)
    rw [hsnd, hfst]
  · exact Nat.le_trans hpot' hpot

theorem Mild.foldl {β : Type} {f : Conduct → Workspace → β → Workspace} {l : List β}
    (h : ∀ b, Mild fun act w => f act w b) : Mild fun act w => l.foldl (f act) w := by
  induction l with
  | nil => exact Mild.id
  | cons b rest ih => exact Mild.comp ih (h b)

theorem Mild.deliver {κ η : Type} [SignalKind κ] (bus : SignalBus κ η) (kind : κ)
    {invoke : Conduct → η → Workspace → Workspace} (h : ∀ x, Mild fun act => invoke act x) :
    Mild fun act w => bus.deliver kind (invoke act) w :=
  Mild.foldl fun x => h x

/-! ## Delivery -/

/-- Commands carried out one after the other, within the work that they bring along. -/
theorem costs_carryOut (note : Reply → Workspace → Workspace)
    (hnote : ∀ r w, (note r w).potential = w.potential) (commands : List Command) :
    ∀ ⦃act act' : Conduct⦄ ⦃bound : Nat⦄, Frugal act → AgreeUpTo bound act act' →
      ∀ w, w.potential + Command.weights commands ≤ bound →
        carryOut act note commands w = carryOut act' note commands w ∧
          (carryOut act note commands w).potential ≤
            w.potential + Command.weights commands := by
  induction commands with
  | nil =>
      intro act act' bound _ _ w _
      exact ⟨rfl, Nat.le_add_right _ _⟩
  | cons c rest ih =>
      intro act act' bound frugal agree w hw
      simp only [Command.weights] at hw ⊢
      have hc : act c w = act' c w := agree c w (by omega)
      have hstep := frugal c w
      have hnoted := hnote (act c w).1 (act c w).2
      obtain ⟨heq, hpot⟩ := ih frugal agree (note (act c w).1 (act c w).2) (by omega)
      constructor
      · show carryOut act note rest (note (act c w).1 (act c w).2) =
          carryOut act' note rest (note (act' c w).1 (act' c w).2)
        rw [← hc, heq]
      · show (carryOut act note rest (note (act c w).1 (act c w).2)).potential ≤ _
        omega

theorem mild_notify (event : AnyEvent) (id : Nat) : Mild fun act => notify act event id := by
  intro act act' bound frugal agree w hw
  simp only [notify]
  cases ho : w.observers.get? id with
  | none => exact ⟨rfl, Nat.le_refl _⟩
  | some o =>
      have hpaid := potential_answer ho
      obtain ⟨heq, hpot⟩ := costs_carryOut
        (fun reply => record (.observer (.did o.label reply))) (fun _ _ => rfl) o.answer.1 frugal agree
        { w.record (.observer (.heard o.label event)) with
          observers := w.observers.insert id o.answer.2 }
        (by
          rw [show Workspace.potential _ =
            { w with observers := w.observers.insert id o.answer.2 }.potential from rfl]
          omega)
      exact ⟨heq, Nat.le_trans hpot (Nat.le_of_eq hpaid)⟩

theorem mild_announce (id : Nat) (event : SessionEvent) :
    Mild fun act => announce act id event := by
  intro act act' bound frugal agree w hw
  simp only [announce]
  cases w.sessions.get? id with
  | none => exact ⟨rfl, Nat.le_refl _⟩
  | some s =>
      exact Mild.deliver s.bus _ (fun x => mild_notify (.session event) x) frugal agree w hw

theorem mild_report (editor : Nat) (event : EditorEvent) :
    Mild fun act => report act editor event := by
  intro act act' bound frugal agree w hw
  simp only [report]
  cases w.editor? editor with
  | none => exact ⟨rfl, Nat.le_refl _⟩
  | some e =>
      obtain ⟨heq, hpot⟩ :=
        Mild.deliver e.bus event.signal (fun x => mild_notify (.editor event) x) frugal agree
          { w with reporting := editor :: w.reporting } hw
      simp only at heq hpot ⊢
      rw [← heq]
      exact ⟨rfl, hpot⟩

theorem mild_reactOnce (id : Nat) (reaction : Reaction) :
    Mild fun act w => reactOnce act id w reaction := by
  intro act act' bound frugal agree w hw
  simp only [reactOnce]
  cases w.sessions.get? id with
  | none => exact ⟨rfl, Nat.le_refl _⟩
  | some s =>
      simp only
      cases (s.core.react w.engine.replica reaction).2 with
      | none => exact ⟨rfl, Nat.le_refl _⟩
      | some event => exact mild_announce id event frugal agree _ hw

theorem mild_sessionHears (event : EngineEvent) (id : Nat) :
    Mild fun act => sessionHears act event id := by
  intro act act' bound frugal agree w hw
  simp only [sessionHears]
  cases w.sessions.get? id with
  | none => exact ⟨rfl, Nat.le_refl _⟩
  | some s =>
      simp only
      split
      · obtain ⟨heq, hpot⟩ := Mild.foldl (l := s.core.reactions w.engine.replica event)
          (fun reaction => mild_reactOnce id reaction) frugal agree
          (w.modifySession id fun s => { s with reacting := s.reacting + 1 }) hw
        simp only at heq hpot
        rw [← heq]
        exact ⟨rfl, hpot⟩
      · exact ⟨rfl, Nat.le_refl _⟩

theorem mild_setModified (id : Nat) (modified : Bool) :
    Mild fun act => setModified act id modified := by
  intro act act' bound frugal agree w hw
  simp only [setModified]
  cases w.undoManagers.get? id with
  | none => exact ⟨rfl, Nat.le_refl _⟩
  | some m =>
      simp only
      split
      · exact Mild.deliver (m.setModified modified).1.bus _
          (fun editor => mild_report editor (.documentModifiedChanged modified)) frugal agree
          { w with undoManagers := w.undoManagers.insert id (m.setModified modified).1 } hw
      · exact ⟨rfl, Nat.le_refl _⟩

theorem mild_inform (id : Nat) : Mild fun act => inform act id := by
  intro act act' bound frugal agree w hw
  simp only [inform]
  split
  · obtain ⟨heq, hpot⟩ := mild_setModified id true frugal agree
      { w with informed := id :: w.informed } hw
    simp only at heq
    rw [← heq]
    exact ⟨rfl, hpot⟩
  · exact ⟨rfl, Nat.le_refl _⟩

theorem mild_hear (event : EngineEvent) (listener : EngineListener) :
    Mild fun act => hear act event listener := by
  cases listener with
  | session id => exact mild_sessionHears event id
  | undoManager id => exact mild_inform id
  | metadataRelay editor =>
      cases event with
      | metadataChanged set removed => exact mild_report editor (.metadataChanged set removed)
      | _ => exact Mild.id
  | observer id => exact mild_notify (.engine event) id

theorem mild_publish (event : EngineEvent) : Mild fun act w => publish act w event := by
  intro act act' bound frugal agree w hw
  exact Mild.deliver w.engine.bus _ (fun x => mild_hear event x) frugal agree w hw

theorem mild_publishAll (events : List EngineEvent) :
    Mild fun act w => events.foldl (publish act) w :=
  Mild.foldl fun event => mild_publish event

/-! ## Applying the queue -/

theorem mild_applyQueued (count : Nat) : Mild fun act => applyQueued act count := by
  induction count with
  | zero => exact Mild.id
  | succ count ih =>
      intro act act' bound frugal agree w hw
      simp only [applyQueued]
      cases h : w.engine.applyNext? with
      | none => exact ⟨rfl, Nat.le_refl _⟩
      | some next =>
          obtain ⟨events, engine⟩ := next
          have hpop := potential_applyNext? h
          obtain ⟨heq, hpot⟩ := Mild.comp ih (mild_publishAll events) frugal agree
            { w with engine } (by omega)
          exact ⟨heq, by simp only at hpot ⊢; omega⟩

/-- As many rounds as the potential counts are enough, and more change nothing. -/
theorem applyQueued_of_le {act : Conduct} (frugal : Frugal act) {count count' : Nat}
    {w : Workspace} (h : w.potential ≤ count) (h' : w.potential ≤ count') :
    applyQueued act count w = applyQueued act count' w := by
  induction count generalizing count' w with
  | zero =>
      have hempty : w.engine.applyNext? = none := by
        cases hn : w.engine.applyNext? with
        | none => rfl
        | some next => have := potential_applyNext? hn; omega
      cases count' <;> simp [applyQueued, hempty]
  | succ count ih =>
      cases hn : w.engine.applyNext? with
      | none => cases count' <;> simp [applyQueued, hn]
      | some next =>
          obtain ⟨events, engine⟩ := next
          have hpop := potential_applyNext? hn
          have hpub := (mild_publishAll events).potential_le frugal { w with engine }
          obtain ⟨rest, rfl⟩ : ∃ rest, count' = rest + 1 := ⟨count' - 1, by omega⟩
          simp only [applyQueued, hn]
          exact ih (by omega) (by omega)

theorem pending_applyQueued {act : Conduct} (frugal : Frugal act) {count : Nat}
    {w : Workspace} (h : w.potential ≤ count) :
    (applyQueued act count w).engine.pending = [] := by
  induction count generalizing w with
  | zero =>
      have hp : w.engine.pending.length = 0 := by rw [potential_eq] at h; omega
      exact List.eq_nil_of_length_eq_zero hp
  | succ count ih =>
      simp only [applyQueued]
      cases hn : w.engine.applyNext? with
      | none => exact Engine.pending_of_applyNext?_eq_none hn
      | some next =>
          obtain ⟨events, engine⟩ := next
          have hpop := potential_applyNext? hn
          have hpub := (mild_publishAll events).potential_le frugal { w with engine }
          simp only at hpub ⊢
          exact ih (by omega)

theorem mild_flush : Mild flush := by
  intro act act' bound frugal agree w hw
  exact mild_applyQueued w.potential frugal agree w hw

/-- Flushing leaves nothing queued, whatever observers queue meanwhile. -/
theorem pending_flush {act : Conduct} (frugal : Frugal act) (w : Workspace) :
    (w.flush act).engine.pending = [] :=
  pending_applyQueued frugal (Nat.le_refl _)

theorem flush_of_empty {act : Conduct} {w : Workspace} (h : w.engine.applyNext? = none) :
    w.flush act = w := by
  unfold flush
  cases w.potential <;> simp [applyQueued, h]

theorem flush_of_nil {act : Conduct} {w : Workspace} (h : w.engine.pending = []) :
    w.flush act = w :=
  flush_of_empty (Engine.applyNext?_of_nil h)

/-- Flushing applies the first batch, delivers its events, and flushes what is queued then. -/
theorem flush_of_applyNext? {act : Conduct} (frugal : Frugal act) {w : Workspace}
    {events : List EngineEvent} {engine : Engine EngineListener}
    (h : w.engine.applyNext? = some (events, engine)) :
    w.flush act = (events.foldl (publish act) { w with engine }).flush act := by
  have hpop := potential_applyNext? h
  have hpub := (mild_publishAll events).potential_le frugal { w with engine }
  unfold flush
  rw [hpop]
  simp only [applyQueued, h]
  exact applyQueued_of_le frugal (by omega) (Nat.le_refl _)

/-- The workspace when a batch was applied and `rest` is left in the queue; nothing has been
announced yet. -/
def withApplied (w : Workspace) (batch : Batch) (rest : List Batch) : Workspace :=
  { w with engine := { w.engine with
      replica := (w.engine.replica.applyBatch batch).1, pending := rest } }

theorem flush_of_cons {act : Conduct} (frugal : Frugal act) {w : Workspace} {batch : Batch}
    {rest : List Batch} (h : w.engine.pending = batch :: rest) :
    w.flush act = ((w.engine.replica.applyBatch batch).2.foldl (publish act)
      (w.withApplied batch rest)).flush act :=
  flush_of_applyNext? frugal (Engine.applyNext?_of_cons h)

end Workspace

end Coedit
