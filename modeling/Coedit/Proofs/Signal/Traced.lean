import Coedit.Proofs.Dict
import Coedit.Proofs.Signal.Play

/-!
# Scripted buses with a history

A scripted bus together with the history of what happened on it. Keeping the history changes
nothing about what the bus does (`erases_execute`). The nesting that `execute` allows for is always
enough: commands that observers give are carried out as fully as those from outside
(`execute_eq_step`).
-/

namespace Coedit

open BusCommand (weight weights)

variable {κ ε : Type}

/-- A scripted bus and all that happened on it. -/
structure Traced (κ ε : Type) where
  state : ScriptedBus κ ε
  past : List (Moment κ ε) := []

abbrev Traced.Conduct (κ ε : Type) := BusCommand κ ε → Traced κ ε → BusReply × Traced κ ε

namespace Traced

def play (t : Traced κ ε) : Play κ ε Nat := { bus := t.state.bus, past := t.past }

def note (m : Moment κ ε) (t : Traced κ ε) : Traced κ ε := { t with past := t.past ++ [m] }

def noteReply (label : String) (reply : BusReply) (t : Traced κ ε) : Traced κ ε :=
  { t with state := t.state.note (.did label reply) }

def heardBy (event : ε) (id : Nat) (o : Observer (BusCommand κ ε)) (t : Traced κ ε) :
    Traced κ ε :=
  { t with state :=
    { t.state.note (.heard o.label event) with
      observers := t.state.observers.insert id o.answer.2 } }

def notify (act : Conduct κ ε) (emission : Nat) (event : ε) (id : Nat) (t : Traced κ ε) :
    Traced κ ε :=
  let t := t.note (.reached emission event id)
  match t.state.observers.get? id with
  | none => t
  | some o => carryOut act (noteReply o.label) o.answer.1 (t.heardBy event id o)

variable [SignalKind κ] [BusEvent ε κ]

def ofKinds (kinds : List κ) : Traced κ ε := { state := .ofKinds kinds }

def step (act : Conduct κ ε) (command : BusCommand κ ε) (t : Traced κ ε) :
    BusReply × Traced κ ε :=
  match command with
  | .subscribe kind label actions times =>
    match t.state.bus.subscribe kind t.state.bus.nextId with
    | .error cause => (.failed cause, t.note (.refused cause))
    | .ok (id, bus) =>
      let observer := { label, actions, remaining := times }
      (.subscribed id,
        { state := { t.state with bus, observers := t.state.observers.insert id observer }
          past := t.past ++ [.subscribed kind id] })
  | .unsubscribe kind id =>
    (.done,
      { state := { t.state with bus := t.state.bus.unsubscribe kind id }
        past := t.past ++ [.unsubscribed kind id] })
  | .emit event =>
    match t.state.bus.emit (BusEvent.kind event) (notify act t.past.length event)
        (t.note (.started event)) with
    | (.ok (), t') => (.done, t'.note (.finished t.past.length))
    | (.error cause, _) => (.failed cause, t.note (.refused cause))
  | .clear =>
    (.done, { state := { t.state with bus := t.state.bus.clear }, past := t.past ++ [.cleared] })
  | .count kind => (.count (t.state.bus.subscriberCount kind), t)
  | .isDeclared kind => (.declared (t.state.bus.isDeclared kind), t)
  | .describe => (.description t.state.bus.describe, t)

def perform : Nat → Conduct κ ε
  | 0, _, t => (.done, t)
  | depth + 1, command, t => step (perform depth) command t

def execute (command : BusCommand κ ε) (t : Traced κ ε) : BusReply × Traced κ ε :=
  perform (t.state.potential + command.weight) command t

end Traced

/-! ## Forgetting the history -/

namespace ScriptedBus

variable [SignalKind κ] [BusEvent ε κ]

def step (act : BusCommand κ ε → ScriptedBus κ ε → BusReply × ScriptedBus κ ε)
    (command : BusCommand κ ε) (s : ScriptedBus κ ε) : BusReply × ScriptedBus κ ε :=
  match command with
  | .subscribe kind label actions times =>
    match s.bus.subscribe kind s.bus.nextId with
    | .error cause => (.failed cause, s)
    | .ok (id, bus) =>
      let observer := { label, actions, remaining := times }
      (.subscribed id, { s with bus, observers := s.observers.insert id observer })
  | .unsubscribe kind id => (.done, { s with bus := s.bus.unsubscribe kind id })
  | .emit event =>
    match s.bus.emit (BusEvent.kind event) (notify act event) s with
    | (.ok (), s) => (.done, s)
    | (.error cause, s) => (.failed cause, s)
  | .clear => (.done, { s with bus := s.bus.clear })
  | .count kind => (.count (s.bus.subscriberCount kind), s)
  | .isDeclared kind => (.declared (s.bus.isDeclared kind), s)
  | .describe => (.description s.bus.describe, s)

theorem perform_succ (depth : Nat) (c : BusCommand κ ε) (s : ScriptedBus κ ε) :
    perform (depth + 1) c s = step (perform depth) c s := by
  cases c <;> rfl

end ScriptedBus

section Erase

variable [SignalKind κ] [BusEvent ε κ]

def Erases (act : Traced.Conduct κ ε)
    (act' : BusCommand κ ε → ScriptedBus κ ε → BusReply × ScriptedBus κ ε) : Prop :=
  ∀ c t, act' c t.state = ((act c t).1, (act c t).2.state)

variable {act : Traced.Conduct κ ε}
  {act' : BusCommand κ ε → ScriptedBus κ ε → BusReply × ScriptedBus κ ε}

omit [SignalKind κ] [BusEvent ε κ] in
theorem Erases.carryOut (h : Erases act act') (label : String) (actions : List (BusCommand κ ε))
    (t : Traced κ ε) :
    Coedit.carryOut act' (fun reply => ScriptedBus.note (.did label reply)) actions t.state =
      (Coedit.carryOut act (Traced.noteReply label) actions t).state := by
  induction actions generalizing t with
  | nil => rfl
  | cons c rest ih =>
      simp only [Coedit.carryOut, h c t]
      exact ih (Traced.noteReply label (act c t).1 (act c t).2)

omit [SignalKind κ] [BusEvent ε κ] in
theorem Erases.notify (h : Erases act act') (emission : Nat) (event : ε) (id : Nat)
    (t : Traced κ ε) :
    t.state.notify act' event id = (t.notify act emission event id).state := by
  unfold ScriptedBus.notify Traced.notify
  show _ = (match t.state.observers.get? id with
    | none => t.note (.reached emission event id)
    | some o => Coedit.carryOut act (Traced.noteReply o.label) o.answer.1
        ((t.note (.reached emission event id)).heardBy event id o)).state
  cases t.state.observers.get? id with
  | none => rfl
  | some o =>
      exact h.carryOut o.label o.answer.1
        ((t.note (.reached emission event id)).heardBy event id o)

theorem Erases.step (h : Erases act act') : Erases (Traced.step act) (ScriptedBus.step act') := by
  intro c t
  cases c with
  | subscribe kind label actions times =>
      simp only [ScriptedBus.step, Traced.step]
      cases t.state.bus.subscribe kind t.state.bus.nextId <;> rfl
  | emit event =>
      have hdeliver : ∀ (handlers : List Nat) (u : Traced κ ε),
          handlers.foldl (fun s id => s.notify act' event id) u.state =
            (handlers.foldl (fun t' id => t'.notify act t.past.length event id) u).state := by
        intro handlers
        induction handlers with
        | nil => exact fun _ => rfl
        | cons id rest ih =>
            intro u
            rw [List.foldl_cons, List.foldl_cons, h.notify t.past.length event id u]
            exact ih _
      simp only [ScriptedBus.step, Traced.step, SignalBus.emit]
      cases t.state.bus.checkDeclared (BusEvent.kind event) with
      | error cause => rfl
      | ok _ => exact congrArg (Prod.mk BusReply.done) (hdeliver _ (t.note (.started event)))
  | _ => rfl

theorem erases_perform (depth : Nat) :
    Erases (Traced.perform depth : Traced.Conduct κ ε) (ScriptedBus.perform depth) := by
  induction depth with
  | zero => exact fun c t => rfl
  | succ depth ih =>
      intro c t
      rw [ScriptedBus.perform_succ]
      exact ih.step c t

/-- A history does not change what happens. -/
theorem erases_execute : Erases (Traced.execute : Traced.Conduct κ ε) ScriptedBus.execute :=
  fun c t => erases_perform _ c t

end Erase

/-! ## The depth does not matter -/

section Depth

namespace BusCommand

theorem weight_pos (c : BusCommand κ ε) : 0 < c.weight := by
  cases c <;> simp only [weight] <;> omega

end BusCommand

def observerPotential (o : Observer (BusCommand κ ε)) : Nat := o.remaining * weights o.actions

namespace Traced

def potential [SignalKind κ] [BusEvent ε κ] (t : Traced κ ε) : Nat := t.state.potential

variable [SignalKind κ] [BusEvent ε κ]

theorem potential_eq (t : Traced κ ε) :
    t.potential = t.state.observers.sum observerPotential := rfl

theorem potential_heardBy {t : Traced κ ε} {id : Nat} {o : Observer (BusCommand κ ε)}
    (h : t.state.observers.get? id = some o) (event : ε) :
    (t.heardBy event id o).potential + weights o.answer.1 = t.potential := by
  have hsum := Dict.sum_insert observerPotential t.state.observers id o.answer.2
  simp only [h, Option.elim_some] at hsum
  have hpay : observerPotential o.answer.2 + weights o.answer.1 = observerPotential o := by
    by_cases hr : o.remaining = 0
    · simp [Observer.answer_of_spent hr, weights]
    · obtain ⟨n, hn⟩ := Nat.exists_eq_succ_of_ne_zero hr
      rw [Observer.answer_of_remaining (by omega)]
      simp only [observerPotential, hn, Nat.succ_sub_one, Nat.succ_mul]
  have hinsert : (t.heardBy event id o).potential =
      (t.state.observers.insert id o.answer.2).sum observerPotential := rfl
  rw [hinsert, potential_eq]
  omega

/-- A conduct that leaves at most the work that its commands bring along. -/
def Frugal (act : Conduct κ ε) : Prop :=
  ∀ c t, (act c t).2.potential ≤ t.potential + c.weight

/-- Two conducts do the same wherever command and bus stay within a bound. -/
def AgreeUpTo (bound : Nat) (act act' : Conduct κ ε) : Prop :=
  ∀ c t, t.potential + c.weight ≤ bound → act c t = act' c t

variable {act act' : Conduct κ ε} {bound : Nat}

theorem agreeUpTo_refl (bound : Nat) (act : Conduct κ ε) : AgreeUpTo bound act act :=
  fun _ _ _ => rfl

theorem within_carryOut (frugal : Frugal act) (agree : AgreeUpTo bound act act')
    (label : String) (commands : List (BusCommand κ ε)) (t : Traced κ ε)
    (ht : t.potential + weights commands ≤ bound) :
    carryOut act (noteReply label) commands t = carryOut act' (noteReply label) commands t ∧
      (carryOut act (noteReply label) commands t).potential ≤
        t.potential + weights commands := by
  induction commands generalizing t with
  | nil => exact ⟨rfl, Nat.le_add_right _ _⟩
  | cons c rest ih =>
      simp only [weights] at ht ⊢
      have hc : act c t = act' c t := agree c t (by omega)
      have hstep := frugal c t
      have hnoted : (noteReply label (act c t).1 (act c t).2).potential =
          (act c t).2.potential := rfl
      obtain ⟨heq, hpot⟩ := ih (noteReply label (act c t).1 (act c t).2) (by omega)
      refine ⟨?_, Nat.le_trans hpot (by omega)⟩
      show carryOut act (noteReply label) rest (noteReply label (act c t).1 (act c t).2) =
        carryOut act' (noteReply label) rest (noteReply label (act' c t).1 (act' c t).2)
      rw [← hc, heq]

theorem within_notify (frugal : Frugal act) (agree : AgreeUpTo bound act act') (emission : Nat)
    (event : ε) (id : Nat) (t : Traced κ ε) (ht : t.potential ≤ bound) :
    t.notify act emission event id = t.notify act' emission event id ∧
      (t.notify act emission event id).potential ≤ t.potential := by
  have hnoted : (t.note (.reached emission event id)).potential = t.potential := rfl
  simp only [notify]
  cases ho : (t.note (.reached emission event id)).state.observers.get? id with
  | none => exact ⟨rfl, Nat.le_refl _⟩
  | some o =>
      have hpaid := potential_heardBy ho event
      obtain ⟨heq, hpot⟩ := within_carryOut frugal agree o.label o.answer.1
        ((t.note (.reached emission event id)).heardBy event id o) (by omega)
      exact ⟨heq, Nat.le_trans hpot (by omega)⟩

theorem within_deliver (frugal : Frugal act) (agree : AgreeUpTo bound act act')
    (emission : Nat) (event : ε) (handlers : List Nat) (t : Traced κ ε)
    (ht : t.potential ≤ bound) :
    handlers.foldl (fun t id => t.notify act emission event id) t =
        handlers.foldl (fun t id => t.notify act' emission event id) t ∧
      (handlers.foldl (fun t id => t.notify act emission event id) t).potential ≤
        t.potential := by
  induction handlers generalizing t with
  | nil => exact ⟨rfl, Nat.le_refl _⟩
  | cons id rest ih =>
      obtain ⟨hfirst, hle⟩ := within_notify frugal agree emission event id t ht
      obtain ⟨hrest, hle'⟩ := ih (t.notify act emission event id) (Nat.le_trans hle ht)
      rw [List.foldl_cons, List.foldl_cons, ← hfirst]
      exact ⟨hrest, Nat.le_trans hle' hle⟩

/-- One step nests only as deep as the potential of the bus allows, whatever the command. -/
theorem within_step (frugal : Frugal act) (agree : AgreeUpTo bound act act')
    (c : BusCommand κ ε) (t : Traced κ ε) (ht : t.potential ≤ bound) :
    t.step act c = t.step act' c ∧ (t.step act c).2.potential ≤ t.potential + c.weight := by
  cases c with
  | subscribe kind label actions times =>
      refine ⟨rfl, ?_⟩
      simp only [step]
      cases hsub : t.state.bus.subscribe kind t.state.bus.nextId with
      | error cause => exact Nat.le_add_right _ _
      | ok result =>
          obtain ⟨id, bus⟩ := result
          have hsum := Dict.sum_insert observerPotential t.state.observers id
            { label, actions, remaining := times }
          rw [potential_eq, potential_eq]
          simp only [observerPotential, BusCommand.weight] at hsum ⊢
          omega
  | emit event =>
      have hstart : (t.note (.started event)).potential = t.potential := rfl
      obtain ⟨heq, hle⟩ := within_deliver frugal agree t.past.length event
        (t.state.bus.handlers (BusEvent.kind event)) (t.note (.started event)) (by omega)
      simp only [step, SignalBus.emit, SignalBus.deliver]
      cases t.state.bus.checkDeclared (BusEvent.kind event) with
      | error cause => exact ⟨rfl, Nat.le_add_right _ _⟩
      | ok _ =>
          simp only
          rw [← heq]
          exact ⟨rfl, Nat.le_trans hle (by omega)⟩
  | _ => exact ⟨rfl, Nat.le_add_right _ _⟩

theorem frugal_perform (depth : Nat) : Frugal (perform depth : Conduct κ ε) := by
  induction depth with
  | zero => exact fun c t => Nat.le_add_right _ _
  | succ depth ih =>
      exact fun c t => (within_step ih (agreeUpTo_refl _ _) c t (Nat.le_refl _)).2

/-- Any two depths that cover the work of a command carry it out alike. -/
theorem perform_agree {depth depth' : Nat} (h : depth ≤ depth') :
    AgreeUpTo depth (perform depth : Conduct κ ε) (perform depth') := by
  induction depth generalizing depth' with
  | zero =>
      intro c t ht
      have hpos := c.weight_pos
      omega
  | succ depth ih =>
      intro c t ht
      obtain ⟨rest, rfl⟩ : ∃ rest, depth' = rest + 1 := ⟨depth' - 1, by omega⟩
      have hpos := c.weight_pos
      exact (within_step (frugal_perform depth) (ih (by omega)) c t (by omega)).1

/-- A command is one step, in which the commands of observers are carried out to the end. -/
theorem execute_eq_step (c : BusCommand κ ε) (t : Traced κ ε) :
    t.execute c = t.step execute c := by
  obtain ⟨depth, hdepth⟩ : ∃ depth, t.potential + c.weight = depth + 1 :=
    ⟨t.potential + c.weight - 1, by have := c.weight_pos; omega⟩
  have agree : AgreeUpTo depth (perform depth : Conduct κ ε) execute :=
    fun c t ht => (perform_agree ht c t (Nat.le_refl _)).symm
  have hpos := c.weight_pos
  show perform (t.potential + c.weight) c t = _
  rw [hdepth]
  exact (within_step (frugal_perform depth) agree c t (by omega)).1

end Traced

/-- The same of a bus that keeps no history. -/
theorem ScriptedBus.execute_eq_step [SignalKind κ] [BusEvent ε κ] (c : BusCommand κ ε)
    (s : ScriptedBus κ ε) : s.execute c = s.step execute c := by
  let t : Traced κ ε := { state := s }
  calc t.state.execute c = ((t.execute c).1, (t.execute c).2.state) := erases_execute c t
    _ = ((t.step Traced.execute c).1, (t.step Traced.execute c).2.state) := by
        rw [Traced.execute_eq_step c t]
    _ = t.state.step ScriptedBus.execute c := (erases_execute.step c t).symm

end Depth

end Coedit
