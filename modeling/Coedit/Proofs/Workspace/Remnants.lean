import Coedit.Proofs.Session.Alone
import Coedit.Proofs.Session.Creation

/-!
# Remnants of sessions

When a session ends, its subscriptions to the engine may be left behind, and its record stays.
These remnants make no difference: whatever is done, by whom and however deep the commands nest,
it comes to the same as it does without them, except that subscribers are counted. Here this is
shown of the delivery of events and of the engine's queue.
-/

namespace Coedit

/-! ## What is compared -/

def Reply.unnumbered : Reply → Reply
  | .engine (.number _) => .engine (.number 0)
  | .engine (.numbers _) => .engine (.numbers [])
  | reply => reply

def LogEntry.unnumbered : LogEntry → LogEntry
  | .observer (.did label reply) => .observer (.did label reply.unnumbered)
  | entry => entry

namespace SignalBus

variable {κ η : Type} [SignalKind κ]

def without (bus : SignalBus κ η) (gone : η → Bool) : SignalBus κ η :=
  { bus with subscriptions := bus.subscriptions.filter fun s => !gone s.handler }

theorem handlers_without (bus : SignalBus κ η) (gone : η → Bool) (kind : κ) :
    (bus.without gone).handlers kind = (bus.handlers kind).filter fun handler => !gone handler := by
  simp only [handlers, without, List.filter_map, List.filter_filter]
  exact congrArg (List.map _) (List.filter_congr fun s _ => Bool.and_comm _ _)

theorem unsubscribe_without (bus : SignalBus κ η) (gone : η → Bool) (kind : κ) (id : Nat) :
    (bus.without gone).unsubscribe kind id = (bus.unsubscribe kind id).without gone := by
  simp only [unsubscribe, without, List.filter_filter]
  exact congrArg (fun subscriptions => { bus with subscriptions })
    (List.filter_congr fun s _ => Bool.and_comm _ _)

/-- A handler that stays subscribes alike. -/
theorem subscribe_without (bus : SignalBus κ η) {gone : η → Bool} (kind : κ) {handler : η}
    (h : gone handler = false) :
    (bus.without gone).subscribe kind handler =
      (bus.subscribe kind handler).map fun made => (made.1, made.2.without gone) := by
  have hdeclared : (bus.without gone).checkDeclared kind = bus.checkDeclared kind := rfl
  unfold subscribe
  rw [hdeclared]
  cases bus.checkDeclared kind with
  | error cause => rfl
  | ok _ => simp [Except.map, without, List.filter_append, h]

theorem mem_of_subscribe {bus : SignalBus κ η} {kind : κ} {handler : η}
    {made : Nat × SignalBus κ η} (h : bus.subscribe kind handler = .ok made)
    {sub : Subscription κ η} (hsub : sub ∈ made.2.subscriptions) :
    sub ∈ bus.subscriptions ∨ sub.handler = handler := by
  obtain ⟨-, -, hsubs⟩ := subscribe_spec h
  rcases List.mem_append.1 (hsubs ▸ hsub) with hold | hnew
  · exact .inl hold
  · exact .inr (congrArg Subscription.handler (List.mem_singleton.1 hnew))

end SignalBus

/-- The session is still with its owner, as busy as before and with the same undo manager, and
nobody new watches it. -/
structure Session.Kept (s s' : Session) : Prop where
  attached : s'.attached = s.attached
  reacting : s'.reacting = s.reacting
  undoManager : s'.input.undoManager = s.input.undoManager
  bus : s'.bus.subscriptions ⊆ s.bus.subscriptions

/-- What is left of sessions that are over: their records, which nobody changes any more, and
undo managers that nobody uses. The sessions without an owner are those that are over, those that
are about to be, and those that are still to get one. Some observers are known to have watched a
session. -/
structure Remnants where
  ended : Nat → Bool
  records : Nat → Option Session
  spare : Nat → Bool
  released : Nat → Bool
  awaited : Nat → Bool
  watched : Nat → Option Nat
  released_of_ended : ∀ id, ended id = true → released id = true
  detached : ∀ id s, ended id = true → records id = some s → s.attached = false

namespace Remnants

def holds (σ : Remnants) : EngineListener → Bool
  | .session id => σ.ended id
  | .undoManager id => σ.spare id
  | _ => false

def release (σ : Remnants) (id : Nat) : Remnants :=
  { σ with
    released := fun other => σ.released other || other == id
    released_of_ended := fun other h => by rw [σ.released_of_ended other h, Bool.true_or] }

theorem not_ended (σ : Remnants) {id : Nat} (h : σ.released id = false) : σ.ended id = false := by
  cases hid : σ.ended id with
  | false => rfl
  | true => exact (σ.released_of_ended id hid).symm.trans h

theorem released_release (σ : Remnants) (id : Nat) : (σ.release id).released id = true := by
  simp [release]

def await (σ : Remnants) (id : Nat) : Remnants :=
  { σ with awaited := fun other => σ.awaited other || other == id }

theorem awaited_await (σ : Remnants) (id : Nat) : (σ.await id).awaited id = true := by
  simp [await]

end Remnants

namespace Workspace

def Owns (w : Workspace) (id : Nat) : Prop :=
  w.standalone = some id ∨ ∃ e, w.editor = some e ∧ e.session = some id

def Unclaimed (w : Workspace) (id : Nat) : Prop :=
  (∃ s, w.sessions.get? id = some s ∧ s.attached = true) ∧ ¬ w.Owns id

structure Spare (w : Workspace) (id : Nat) : Prop where
  informed : id ∉ w.informed
  editor : ∀ e, w.editor = some e → e.undoManager ≠ some id
  sessions : ∀ k s, w.sessions.get? k = some s → s.attached = true → s.input.undoManager ≠ some id

theorem spare_iff {w : Workspace} {id : Nat} :
    w.Spare id ↔ w.isUndoManagerUsed id = false := by
  unfold isUndoManagerUsed
  simp only [Bool.or_eq_false_iff, List.any_eq_false, Option.any_eq_false, Bool.and_eq_true,
    beq_iff_eq, Prod.forall]
  constructor
  · rintro ⟨hinformed, heditor, hsessions⟩
    refine ⟨⟨by simpa using hinformed, fun e he => by simpa using heditor e he⟩, ?_⟩
    rintro k s hmem ⟨hattached, huses⟩
    exact hsessions k s ((Dict.get?_eq_some_iff_mem _ _ _).2 hmem) hattached huses
  · rintro ⟨⟨hinformed, heditor⟩, hsessions⟩
    refine ⟨by simpa using hinformed, fun e he => by simpa using heditor e he, ?_⟩
    intro k s hs hattached huses
    exact hsessions k s ((Dict.get?_eq_some_iff_mem _ _ _).1 hs) ⟨hattached, huses⟩

def Watches (w : Workspace) (observer id : Nat) : Prop :=
  ∃ s, w.sessions.get? id = some s ∧ ∃ sub ∈ s.bus.subscriptions, sub.handler = observer

structure Newcomer (σ : Remnants) (w : Workspace) (observer : Nat) : Prop where
  number : observer < w.nextId
  watches : ∀ id, ¬ w.Watches observer id
  watched : σ.watched observer = none

/-- Sessions, undo managers and observers were given numbers, every session has one owner at most,
who keeps it attached, and nobody watches two sessions. -/
structure Consistent (w : Workspace) : Prop where
  known : ∀ id s, w.sessions.get? id = some s → id < w.nextId
  managed : ∀ id s manager, w.sessions.get? id = some s → s.input.undoManager = some manager →
    manager < w.nextId
  owned : ∀ id, w.Owns id → ∃ s, w.sessions.get? id = some s ∧ s.attached = true
  single : ∀ e id, w.editor = some e → e.session = some id → w.standalone ≠ some id
  watches : ∀ observer id, w.Watches observer id → observer < w.nextId
  apart : ∀ observer id other, w.Watches observer id → w.Watches observer other → id = other

structure Proper (σ : Remnants) (w : Workspace) : Prop extends Consistent w where
  watched : ∀ observer id, σ.watched observer = some id →
    observer < w.nextId ∧ ∀ other, w.Watches observer other → other = id
  released : ∀ id, σ.released id = true →
    (∃ s, w.sessions.get? id = some s) ∧ ¬ w.Owns id
  awaited : ∀ id, σ.awaited id = true → σ.released id = false ∧ w.Unclaimed id
  records : ∀ id, σ.ended id = true → w.sessions.get? id = σ.records id
  spare : ∀ id, σ.spare id = true → id < w.nextId ∧ w.Spare id

/-- Each session is in the midst of as many reactions as `busy` says; one that is over is in the
midst of none. -/
structure Paced (σ : Remnants) (busy : Nat → Nat) (w : Workspace) : Prop where
  reacting : ∀ id s, w.sessions.get? id = some s → s.reacting = busy id
  idle : ∀ id, w.nextId ≤ id → busy id = 0
  resting : ∀ id, σ.ended id = true → busy id = 0

/-- The second workspace is the first without the remnants. -/
structure Counterpart (σ : Remnants) (busy : Nat → Nat) (w v : Workspace) : Prop where
  same : ∃ sessions log, v =
    { w with engine := { w.engine with bus := w.engine.bus.without σ.holds }, sessions, log }
  sessions : ∀ id, σ.ended id = false → v.sessions.get? id = w.sessions.get? id
  gone : ∀ id, σ.ended id = true → v.sessions.get? id = none
  log : v.log.map LogEntry.unnumbered = w.log.map LogEntry.unnumbered
  proper : Proper σ w
  paced : Paced σ busy w

section Proper

variable {σ : Remnants} {busy : Nat → Nat} {w w' : Workspace}

/-- What is proper depends on the sessions, on who has them, and on who is being informed. -/
theorem Proper.congr (h : Proper σ w) (hsessions : w'.sessions = w.sessions)
    (hnextId : w'.nextId = w.nextId) (hstandalone : w'.standalone = w.standalone)
    (heditor : w'.editor = w.editor) (hinformed : w'.informed = w.informed) :
    Proper σ w' := by
  obtain ⟨⟩ := w
  obtain ⟨⟩ := w'
  cases hsessions
  cases hnextId
  cases hstandalone
  cases heditor
  cases hinformed
  exact ⟨⟨h.known, h.managed, h.owned, h.single, h.watches, h.apart⟩, h.watched, h.released,
    h.awaited, h.records, fun id hid => ⟨(h.spare id hid).1, ⟨(h.spare id hid).2.informed,
      (h.spare id hid).2.editor, (h.spare id hid).2.sessions⟩⟩⟩

theorem Paced.congr (h : Paced σ busy w) (hsessions : w'.sessions = w.sessions)
    (hnextId : w'.nextId = w.nextId) : Paced σ busy w' := by
  obtain ⟨hreacting, hidle, hresting⟩ := h
  rw [← hsessions] at hreacting
  rw [← hnextId] at hidle
  exact ⟨hreacting, hidle, hresting⟩

theorem not_ended_of_owns (h : Proper σ w) {id : Nat} (hid : w.Owns id) : σ.ended id = false := by
  cases hended : σ.ended id with
  | false => rfl
  | true => exact absurd hid (h.released id (σ.released_of_ended id hended)).2

theorem not_awaited_of_owns (h : Proper σ w) {id : Nat} (hid : w.Owns id) :
    σ.awaited id = false := by
  cases hawaited : σ.awaited id with
  | false => rfl
  | true => exact absurd hid (h.awaited id hawaited).2.2

theorem not_awaited_of_released (h : Proper σ w) {id : Nat} (hid : σ.released id = true) :
    σ.awaited id = false := by
  cases hawaited : σ.awaited id with
  | false => rfl
  | true => exact absurd hid (by rw [(h.awaited id hawaited).1]; decide)

theorem not_awaited_of_next (h : Proper σ w) {id : Nat} (hid : w.nextId ≤ id) :
    σ.awaited id = false := by
  cases hawaited : σ.awaited id with
  | false => rfl
  | true =>
      obtain ⟨s, hs, -⟩ := (h.awaited id hawaited).2.1
      exact absurd hid (Nat.not_le_of_lt (h.known id s hs))

/-- Whoever is not there yet is no remnant. -/
theorem not_ended_of_next (h : Proper σ w) {id : Nat} (hid : w.nextId ≤ id) :
    σ.ended id = false ∧ σ.released id = false ∧ σ.spare id = false := by
  have hreleased : σ.released id = false := by
    cases hr : σ.released id with
    | false => rfl
    | true =>
        obtain ⟨s, hs⟩ := (h.released id hr).1
        exact absurd hid (Nat.not_le_of_lt (h.known id s hs))
  refine ⟨?_, hreleased, ?_⟩
  · cases he : σ.ended id with
    | false => rfl
    | true => exact (σ.released_of_ended id he).symm.trans hreleased
  · cases hs : σ.spare id with
    | false => rfl
    | true => exact absurd hid (Nat.not_le_of_lt (h.spare id hs).1)

/-- A number is given out. -/
theorem Proper.number (h : Proper σ w) : Proper σ { w with nextId := w.nextId + 1 } where
  known id s hs := Nat.lt_succ_of_lt (h.known id s hs)
  managed id s manager hs huses := Nat.lt_succ_of_lt (h.managed id s manager hs huses)
  owned := h.owned
  single := h.single
  watches observer id hwatch := Nat.lt_succ_of_lt (h.watches observer id hwatch)
  apart := h.apart
  watched observer id hid := (h.watched observer id hid).imp_left Nat.lt_succ_of_lt
  released := h.released
  awaited := h.awaited
  records := h.records
  spare id hid := by
    obtain ⟨hnumber, hinformed, heditor, hsessions⟩ := h.spare id hid
    exact ⟨Nat.lt_succ_of_lt hnumber, hinformed, heditor, hsessions⟩

theorem Paced.number (h : Paced σ busy w) : Paced σ busy { w with nextId := w.nextId + 1 } where
  reacting := h.reacting
  idle id hid := h.idle id (Nat.le_of_succ_le hid)
  resting := h.resting

/-! ## New sessions -/

/-- Nobody watches a session that nobody has subscribed to. -/
theorem watches_of_insert {id : Nat} {s : Session} (hbus : s.bus.subscriptions = [])
    {observer k : Nat}
    (h : Watches { w with sessions := w.sessions.insert id s } observer k) :
    w.Watches observer k := by
  obtain ⟨s', hs', sub, hsub, hwatch⟩ := h
  obtain ⟨rfl, rfl⟩ | ⟨-, hs'⟩ := Dict.insert_cases hs'
  · rw [hbus] at hsub
    cases hsub
  · exact ⟨s', hs', sub, hsub, hwatch⟩

/-- A new session is attached, and has neither an undo manager nor subscribers yet. -/
theorem Proper.insertSession (h : Proper σ w) {id : Nat} (hnumber : id < w.nextId)
    (hended : σ.ended id = false) {s : Session} (hattached : s.attached = true)
    (hmanager : s.input.undoManager = none) (hbus : s.bus.subscriptions = []) :
    Proper σ { w with sessions := w.sessions.insert id s } where
  known := Dict.forall_insert hnumber h.known
  managed := by
    intro k s' manager hs' huses
    obtain ⟨-, rfl⟩ | ⟨-, hs'⟩ := Dict.insert_cases hs'
    · rw [hmanager] at huses
      cases huses
    · exact h.managed k s' manager hs' huses
  owned := by
    intro k hk
    obtain ⟨s', hs', hatt⟩ := h.owned k hk
    rw [Dict.get?_insert]
    split
    · exact ⟨s, rfl, hattached⟩
    · exact ⟨s', hs', hatt⟩
  single := h.single
  watches observer k hk := h.watches observer k (watches_of_insert hbus hk)
  apart observer k other hk hother :=
    h.apart observer k other (watches_of_insert hbus hk) (watches_of_insert hbus hother)
  watched observer k hk := by
    obtain ⟨hlt, honly⟩ := h.watched observer k hk
    exact ⟨hlt, fun other hother => honly other (watches_of_insert hbus hother)⟩
  released := by
    intro k hk
    obtain ⟨⟨s', hs'⟩, hunowned⟩ := h.released k hk
    rw [Dict.get?_insert]
    split
    · exact ⟨⟨s, rfl⟩, hunowned⟩
    · exact ⟨⟨s', hs'⟩, hunowned⟩
  awaited := by
    intro k hk
    obtain ⟨hstays, ⟨s', hs', hatt⟩, hunowned⟩ := h.awaited k hk
    refine ⟨hstays, ?_, hunowned⟩
    rw [Dict.get?_insert]
    split
    · exact ⟨s, rfl, hattached⟩
    · exact ⟨s', hs', hatt⟩
  records := by
    intro k hk
    have hother : id ≠ k := by
      rintro rfl
      rw [hended] at hk
      cases hk
    rw [Dict.get?_insert, if_neg hother]
    exact h.records k hk
  spare := by
    intro manager hspare
    obtain ⟨hlt, hinformed, heditor, hsessions⟩ := h.spare manager hspare
    refine ⟨hlt, hinformed, heditor, fun k s' hs' hatt huses => ?_⟩
    obtain ⟨-, rfl⟩ | ⟨-, hs'⟩ := Dict.insert_cases hs'
    · rw [hmanager] at huses
      cases huses
    · exact hsessions k s' hs' hatt huses

theorem Paced.insertSession (h : Paced σ busy w) {id : Nat} {s : Session}
    (hreacting : s.reacting = busy id) :
    Paced σ busy { w with sessions := w.sessions.insert id s } where
  reacting := Dict.forall_insert hreacting h.reacting
  idle := h.idle
  resting := h.resting

/-! ## Changes to sessions -/

/-- Who watches sessions after one was changed. -/
theorem watches_cases {id : Nat} {f : Session → Session}
    (hbus : ∀ s, w.sessions.get? id = some s → ∀ sub ∈ (f s).bus.subscriptions,
      sub ∈ s.bus.subscriptions ∨ Newcomer σ w sub.handler)
    {observer k : Nat} (h : (w.modifySession id f).Watches observer k) :
    w.Watches observer k ∨ k = id ∧ Newcomer σ w observer := by
  obtain ⟨s', hs', sub, hsub, rfl⟩ := h
  obtain ⟨s, hs, ⟨-, rfl⟩ | ⟨rfl, rfl⟩⟩ := Dict.modify_cases hs'
  · exact .inl ⟨s', hs, sub, hsub, rfl⟩
  · rcases hbus s hs sub hsub with hold | hnew
    · exact .inl ⟨s, hs, sub, hold, rfl⟩
    · exact .inr ⟨rfl, hnew⟩

/-- A change to a session that is not over. One that has an owner or is to get one stays attached,
an undo manager that it is given is not a remnant, and those who begin to watch it watch no
other. -/
theorem Proper.changeSession (h : Proper σ w) {id : Nat} (hid : σ.ended id = false)
    {f : Session → Session}
    (hattached : ∀ s, (f s).attached = true → s.attached = true)
    (howned : w.Owns id ∨ σ.awaited id = true → ∀ s, (f s).attached = s.attached)
    (hmanager : ∀ s manager, (f s).input.undoManager = some manager →
      s.input.undoManager = some manager ∨ manager < w.nextId ∧ σ.spare manager = false)
    (hbus : ∀ s, w.sessions.get? id = some s → ∀ sub ∈ (f s).bus.subscriptions,
      sub ∈ s.bus.subscriptions ∨ Newcomer σ w sub.handler) :
    Proper σ (w.modifySession id f) where
  known := by
    intro k s' hs'
    obtain ⟨s, hs, -⟩ := Dict.modify_cases hs'
    exact h.known k s hs
  managed := by
    intro k s' manager hs' huses
    obtain ⟨s, hs, ⟨-, rfl⟩ | ⟨-, rfl⟩⟩ := Dict.modify_cases hs'
    · exact h.managed k s' manager hs huses
    · rcases hmanager s manager huses with hkept | hgiven
      · exact h.managed k s manager hs hkept
      · exact hgiven.1
  owned := by
    intro k hk
    obtain ⟨s, hs, hatt⟩ := h.owned k hk
    simp only [modifySession, Dict.get?_modify]
    split
    · rename_i hsame
      subst hsame
      exact ⟨f s, by rw [hs, Option.map_some], (howned (.inl hk) s).trans hatt⟩
    · exact ⟨s, hs, hatt⟩
  single := h.single
  watches := by
    intro observer k hk
    rcases watches_cases hbus hk with hold | ⟨-, hnew⟩
    · exact h.watches observer k hold
    · exact hnew.number
  apart := by
    intro observer k other hk hother
    rcases watches_cases hbus hk with hold | ⟨rfl, hnew⟩ <;>
      rcases watches_cases hbus hother with hold' | ⟨rfl, hnew'⟩
    · exact h.apart observer k other hold hold'
    · exact absurd hold (hnew'.watches k)
    · exact absurd hold' (hnew.watches other)
    · rfl
  watched := by
    intro observer k hk
    refine ⟨(h.watched observer k hk).1, fun other hother => ?_⟩
    rcases watches_cases hbus hother with hold | ⟨-, hnew⟩
    · exact (h.watched observer k hk).2 other hold
    · rw [hnew.watched] at hk
      cases hk
  released := by
    intro k hk
    obtain ⟨⟨s, hs⟩, hunowned⟩ := h.released k hk
    simp only [modifySession, Dict.get?_modify]
    split
    · exact ⟨⟨f s, by rw [hs, Option.map_some]⟩, hunowned⟩
    · exact ⟨⟨s, hs⟩, hunowned⟩
  awaited := by
    intro k hk
    obtain ⟨hstays, ⟨s, hs, hatt⟩, hunowned⟩ := h.awaited k hk
    refine ⟨hstays, ?_, hunowned⟩
    simp only [modifySession, Dict.get?_modify]
    split
    · rename_i hsame
      subst hsame
      exact ⟨f s, by rw [hs, Option.map_some], (howned (.inr hk) s).trans hatt⟩
    · exact ⟨s, hs, hatt⟩
  records := by
    intro k hk
    have hother : id ≠ k := by
      rintro rfl
      rw [hid] at hk
      cases hk
    simp only [modifySession, Dict.get?_modify, if_neg hother]
    exact h.records k hk
  spare := by
    intro manager hspare
    obtain ⟨hnumber, hinformed, heditor, hsessions⟩ := h.spare manager hspare
    refine ⟨hnumber, hinformed, heditor, fun k s' hs' hatt huses => ?_⟩
    obtain ⟨s, hs, ⟨-, rfl⟩ | ⟨-, rfl⟩⟩ := Dict.modify_cases hs'
    · exact hsessions k s' hs hatt huses
    · rcases hmanager s manager huses with hkept | ⟨-, hgiven⟩
      · exact hsessions k s hs (hattached s hatt) hkept
      · rw [hspare] at hgiven
        cases hgiven

theorem Paced.changeSession (h : Paced σ busy w) (id : Nat) {f : Session → Session}
    (hchange : ∀ s, (f s).reacting = s.reacting) :
    Paced σ busy (w.modifySession id f) where
  reacting := by
    intro k s' hs'
    obtain ⟨s, hs, ⟨-, rfl⟩ | ⟨-, rfl⟩⟩ := Dict.modify_cases hs'
    · exact h.reacting k s' hs
    · exact (hchange s).trans (h.reacting k s hs)
  idle := h.idle
  resting := h.resting

/-- A reaction begins or ends. -/
theorem Paced.count (h : Paced σ busy w) {id : Nat} (hid : σ.ended id = false)
    (hnumber : id < w.nextId) {busy' : Nat → Nat} {f : Nat → Nat}
    (hbusy : busy' id = f (busy id)) (hothers : ∀ k, k ≠ id → busy' k = busy k) :
    Paced σ busy' (w.modifySession id fun s => { s with reacting := f s.reacting }) where
  reacting := by
    intro k s' hs'
    obtain ⟨s, hs, ⟨hother, rfl⟩ | ⟨rfl, rfl⟩⟩ := Dict.modify_cases hs'
    · rw [hothers k hother.symm]
      exact h.reacting k s' hs
    · rw [hbusy, ← h.reacting id s hs]
  idle := by
    intro k hk
    rw [hothers k (by rintro rfl; exact absurd hnumber (Nat.not_lt_of_le hk))]
    exact h.idle k hk
  resting := by
    intro k hk
    rw [hothers k (by rintro rfl; rw [hid] at hk; cases hk)]
    exact h.resting k hk

end Proper

structure Replies (σ : Remnants) (busy : Nat → Nat) (r r' : Reply × Workspace) : Prop where
  reply : r'.1.unnumbered = r.1.unnumbered
  after : Counterpart σ busy r.2 r'.2

/-- What is carried out comes to the same without the remnants. -/
def Indifferent (act : Conduct) : Prop :=
  ∀ ⦃σ busy w v⦄ (command : Command), Counterpart σ busy w v →
    Replies σ busy (act command w) (act command v)

section Counterpart

variable {σ : Remnants} {busy busy' : Nat → Nat} {w v : Workspace} {act : Conduct}

/-! ## What both have in common -/

theorem Counterpart.session (h : Counterpart σ busy w v) {id : Nat} (hid : σ.ended id = false) :
    v.sessions.get? id = w.sessions.get? id :=
  h.sessions id hid

/-- What depends neither on the subscriptions to the engine nor on sessions and log is the same. -/
theorem Counterpart.common {α : Type} (h : Counterpart σ busy w v) (f : Workspace → α)
    (hf : ∀ bus sessions log,
      f { w with engine := { w.engine with bus }, sessions, log } = f w) : f v = f w := by
  obtain ⟨sessions, log, rfl⟩ := h.same
  exact hf _ _ _

/-- Both change alike in what is neither the engine nor sessions or log. -/
theorem Counterpart.alike (h : Counterpart σ busy w v) {f : Workspace → Workspace}
    (hf : ∀ engine sessions log,
      f { w with engine, sessions, log } = { f w with engine, sessions, log })
    (hproper : Proper σ (f w)) (hpaced : Paced σ busy' (f w)) :
    Counterpart σ busy' (f w) (f v) := by
  have hself : f w = { f w with engine := w.engine, sessions := w.sessions, log := w.log } :=
    hf w.engine w.sessions w.log
  have hengine : (f w).engine = w.engine := by rw [hself]
  have hsessions : (f w).sessions = w.sessions := by rw [hself]
  have hlog : (f w).log = w.log := by rw [hself]
  have hkept := h.sessions
  have hgone := h.gone
  have hnotes := h.log
  obtain ⟨sessions, log, rfl⟩ := h.same
  rw [hf _ sessions log]
  refine ⟨⟨sessions, log, ?_⟩, ?_, hgone, ?_, hproper, hpaced⟩
  · rw [hengine]
  · rw [hsessions]
    exact hkept
  · rw [hlog]
    exact hnotes

theorem Counterpart.observers (h : Counterpart σ busy w v) : v.observers = w.observers :=
  h.common (·.observers) fun _ _ _ => rfl

theorem Counterpart.replica (h : Counterpart σ busy w v) : v.engine.replica = w.engine.replica :=
  h.common (·.engine.replica) fun _ _ _ => rfl

theorem Counterpart.undoManagers (h : Counterpart σ busy w v) : v.undoManagers = w.undoManagers :=
  h.common (·.undoManagers) fun _ _ _ => rfl

theorem Counterpart.editor (h : Counterpart σ busy w v) : v.editor = w.editor :=
  h.common (·.editor) fun _ _ _ => rfl

theorem Counterpart.nextId (h : Counterpart σ busy w v) : v.nextId = w.nextId :=
  h.common (·.nextId) fun _ _ _ => rfl

theorem Counterpart.potential (h : Counterpart σ busy w v) : v.potential = w.potential :=
  h.common (·.potential) fun _ _ _ => rfl

theorem Counterpart.informed (h : Counterpart σ busy w v) : v.informed = w.informed :=
  h.common (·.informed) fun _ _ _ => rfl

theorem Counterpart.bus (h : Counterpart σ busy w v) :
    v.engine.bus = w.engine.bus.without σ.holds := by
  obtain ⟨sessions, log, rfl⟩ := h.same
  rfl

/-- An undo manager is used in both, or in neither: a session that is over uses none. -/
theorem Counterpart.isUndoManagerUsed (h : Counterpart σ busy w v) (id : Nat) :
    v.isUndoManagerUsed id = w.isUndoManagerUsed id := by
  have hspare : v.Spare id ↔ w.Spare id := by
    constructor
    · intro hv
      refine ⟨?_, ?_, fun k s hs hatt => ?_⟩
      · rw [← h.informed]
        exact hv.informed
      · rw [← h.editor]
        exact hv.editor
      · cases hk : σ.ended k with
        | false => exact hv.sessions k s ((h.session hk).trans hs) hatt
        | true =>
            rw [h.proper.records k hk] at hs
            rw [σ.detached k s hk hs] at hatt
            cases hatt
    · intro hw
      refine ⟨?_, ?_, fun k s hs hatt => ?_⟩
      · rw [h.informed]
        exact hw.informed
      · rw [h.editor]
        exact hw.editor
      · cases hk : σ.ended k with
        | false => exact hw.sessions k s ((h.session hk).symm.trans hs) hatt
        | true =>
            rw [h.gone k hk] at hs
            cases hs
  rw [spare_iff, spare_iff] at hspare
  cases hv : v.isUndoManagerUsed id <;> cases hw : w.isUndoManagerUsed id <;> simp_all

/-! ## Telling -/

/-- The same is noted in both, up to the numbers in replies. -/
theorem Counterpart.record (h : Counterpart σ busy w v) {entry entry' : LogEntry}
    (hsame : entry'.unnumbered = entry.unnumbered) :
    Counterpart σ busy (w.record entry) (v.record entry') := by
  have hlog := h.log
  obtain ⟨sessions, log, rfl⟩ := h.same
  refine ⟨⟨sessions, _, rfl⟩, h.sessions, h.gone, ?_, h.proper.congr rfl rfl rfl rfl rfl,
    h.paced.congr rfl rfl⟩
  simp only [Workspace.record, List.map_append, List.map_cons, List.map_nil, hsame] at hlog ⊢
  rw [hlog]

theorem Counterpart.interfaceNote (h : Counterpart σ busy w v) (frontend : Frontend)
    (note : InterfaceNote) :
    Counterpart σ busy (w.interfaceNote frontend note) (v.interfaceNote frontend note) := by
  cases frontend with
  | headless => exact h
  | recording failing => exact h.record rfl

theorem Counterpart.foldl {β : Type} {step : Workspace → β → Workspace} {l : List β}
    (hstep : ∀ b ∈ l, ∀ w v, Counterpart σ busy w v → Counterpart σ busy (step w b) (step v b))
    (h : Counterpart σ busy w v) : Counterpart σ busy (l.foldl step w) (l.foldl step v) := by
  induction l generalizing w v with
  | nil => exact h
  | cons b rest ih =>
      exact ih (fun b hb => hstep b (List.mem_cons_of_mem _ hb))
        (hstep b List.mem_cons_self w v h)

theorem Counterpart.carryOut (h : Counterpart σ busy w v) (hact : Indifferent act) (label : String)
    (actions : List Command) :
    Counterpart σ busy
      (Coedit.carryOut act (fun reply => Workspace.record (.observer (.did label reply))) actions w)
      (Coedit.carryOut act (fun reply => Workspace.record (.observer (.did label reply)))
        actions v) := by
  induction actions generalizing w v with
  | nil => exact h
  | cons command rest ih =>
      have hdone := hact command h
      refine ih (hdone.after.record ?_)
      simp only [LogEntry.unnumbered, hdone.reply]

theorem Counterpart.withObservers (h : Counterpart σ busy w v)
    (observers : Dict Nat (Observer Command)) :
    Counterpart σ busy { w with observers } { v with observers } :=
  h.alike (f := fun w => { w with observers }) (fun _ _ _ => rfl) (h.proper.congr rfl rfl rfl rfl rfl)
    (h.paced.congr rfl rfl)

theorem Counterpart.notify (h : Counterpart σ busy w v) (hact : Indifferent act) (event : AnyEvent)
    (id : Nat) : Counterpart σ busy (w.notify act event id) (v.notify act event id) := by
  unfold Workspace.notify
  rw [h.observers]
  cases w.observers.get? id with
  | none => exact h
  | some o =>
      have hheard : Counterpart σ busy (w.record (.observer (.heard o.label event)))
          (v.record (.observer (.heard o.label event))) := h.record rfl
      have hanswered := hheard.withObservers (w.observers.insert id o.answer.2)
      refine Counterpart.carryOut ?_ hact o.label o.answer.1
      rw [hheard.observers]
      exact hanswered

theorem Counterpart.notifyAll (h : Counterpart σ busy w v) (hact : Indifferent act)
    (event : AnyEvent) (ids : List Nat) :
    Counterpart σ busy (ids.foldl (fun w id => w.notify act event id) w)
      (ids.foldl (fun w id => w.notify act event id) v) :=
  h.foldl fun id _ _ _ h => h.notify hact event id

theorem Counterpart.announce (h : Counterpart σ busy w v) (hact : Indifferent act) {id : Nat}
    (hid : σ.ended id = false) (event : SessionEvent) :
    Counterpart σ busy (w.announce act id event) (v.announce act id event) := by
  unfold Workspace.announce
  rw [h.session hid]
  cases w.sessions.get? id with
  | none => exact h
  | some s => exact h.notifyAll hact (.session event) (s.bus.handlers event.signal)

theorem Counterpart.withReporting (h : Counterpart σ busy w v) (reporting : List Nat) :
    Counterpart σ busy { w with reporting } { v with reporting } :=
  h.alike (f := fun w => { w with reporting }) (fun _ _ _ => rfl) (h.proper.congr rfl rfl rfl rfl rfl)
    (h.paced.congr rfl rfl)

theorem Counterpart.report (h : Counterpart σ busy w v) (hact : Indifferent act) (editor : Nat)
    (event : EditorEvent) :
    Counterpart σ busy (w.report act editor event) (v.report act editor event) := by
  have heditor : v.editor? editor = w.editor? editor := h.common (·.editor? editor) fun _ _ _ => rfl
  have hreporting : v.reporting = w.reporting := h.common (·.reporting) fun _ _ _ => rfl
  unfold Workspace.report
  rw [heditor, hreporting]
  cases w.editor? editor with
  | none => exact h
  | some e => exact ((h.withReporting _).notifyAll hact (.editor event) _).withReporting _

/-! ## Sessions and undo managers -/

/-- A session is changed in both. -/
theorem Counterpart.changed (h : Counterpart σ busy w v) {id : Nat} {f : Session → Session}
    (hproper : Proper σ (w.modifySession id f))
    (hpaced : Paced σ busy' (w.modifySession id f)) :
    Counterpart σ busy' (w.modifySession id f) (v.modifySession id f) := by
  have hsessions := h.sessions
  have hgone := h.gone
  obtain ⟨sessions, log, rfl⟩ := h.same
  refine ⟨⟨sessions.modify id f, log, rfl⟩, fun k hk => ?_, fun k hk => ?_, h.log, hproper,
    hpaced⟩
  · simp only [modifySession, Dict.get?_modify]
    rw [hsessions k hk]
  · simp only [modifySession, Dict.get?_modify]
    rw [hgone k hk]
    simp

theorem Counterpart.keepSession (h : Counterpart σ busy w v) {id : Nat} (hid : σ.ended id = false)
    {f : Session → Session} (hkept : ∀ s, Session.Kept s (f s)) :
    Counterpart σ busy (w.modifySession id f) (v.modifySession id f) :=
  h.changed
    (h.proper.changeSession hid (fun s hs => (hkept s).attached ▸ hs) (fun _ s => (hkept s).attached)
      (fun s _ huses => .inl ((hkept s).undoManager ▸ huses))
      fun s _ _ hsub => .inl ((hkept s).bus hsub))
    (h.paced.changeSession id fun s => (hkept s).reacting)

theorem Counterpart.reactOnce (h : Counterpart σ busy w v) (hact : Indifferent act) {id : Nat}
    (hid : σ.ended id = false) (reaction : Reaction) :
    Counterpart σ busy (w.reactOnce act id reaction) (v.reactOnce act id reaction) := by
  unfold Workspace.reactOnce
  rw [h.session hid, h.replica]
  cases w.sessions.get? id with
  | none => exact h
  | some s =>
      have hcore := h.keepSession hid
        (f := fun old => { old with core := (s.core.react w.engine.replica reaction).1 })
        fun _ => ⟨rfl, rfl, rfl, List.Subset.refl _⟩
      simp only
      cases (s.core.react w.engine.replica reaction).2 with
      | none => exact hcore
      | some event => exact hcore.announce hact hid event

/-- A session that is not over hears of an event in both. While it reacts it is busier by one
reaction. -/
theorem Counterpart.sessionHears (h : Counterpart σ busy w v) (hact : Indifferent act) {id : Nat}
    (hid : σ.ended id = false) (event : EngineEvent) :
    Counterpart σ busy (w.sessionHears act event id) (v.sessionHears act event id) := by
  unfold Workspace.sessionHears
  rw [h.session hid, h.replica]
  cases hs : w.sessions.get? id with
  | none => exact h
  | some s =>
      simp only
      split
      · have hbegun : Counterpart σ (Function.update busy id (busy id + 1))
            (w.modifySession id fun s => { s with reacting := s.reacting + 1 })
            (v.modifySession id fun s => { s with reacting := s.reacting + 1 }) :=
          h.changed
            (h.proper.changeSession hid (fun _ hs => hs) (fun _ _ => rfl)
              (fun _ _ huses => .inl huses) fun _ _ _ hsub => .inl hsub)
            (h.paced.count hid (h.proper.known id s hs) (Function.update_self ..)
              fun k hk => Function.update_of_ne hk _ _)
        have hreacted := hbegun.foldl (l := s.core.reactions w.engine.replica event)
          fun reaction _ _ _ h => h.reactOnce hact hid reaction
        have hnumber : id < (List.foldl (Workspace.reactOnce act id)
            (w.modifySession id fun s => { s with reacting := s.reacting + 1 })
            (s.core.reactions w.engine.replica event)).nextId := by
          refine Nat.lt_of_not_le fun hnext => ?_
          have hzero := hreacted.paced.idle id hnext
          rw [Function.update_self] at hzero
          cases hzero
        refine hreacted.changed
          (hreacted.proper.changeSession hid (fun _ hs => hs) (fun _ _ => rfl)
            (fun _ _ huses => .inl huses) fun _ _ _ hsub => .inl hsub)
          (hreacted.paced.count (f := fun n => n - 1) hid hnumber ?_ fun k hk => ?_)
        · rw [Function.update_self, Nat.add_sub_cancel]
        · rw [Function.update_of_ne hk]
      · exact h

theorem Counterpart.withManagers (h : Counterpart σ busy w v)
    (undoManagers : Dict Nat (UndoManager Nat)) :
    Counterpart σ busy { w with undoManagers } { v with undoManagers } :=
  h.alike (f := fun w => { w with undoManagers }) (fun _ _ _ => rfl) (h.proper.congr rfl rfl rfl rfl rfl)
    (h.paced.congr rfl rfl)

theorem Counterpart.setModified (h : Counterpart σ busy w v) (hact : Indifferent act) (id : Nat)
    (modified : Bool) :
    Counterpart σ busy (w.setModified act id modified) (v.setModified act id modified) := by
  unfold Workspace.setModified
  rw [h.undoManagers]
  cases w.undoManagers.get? id with
  | none => exact h
  | some m =>
      have hset := h.withManagers (w.undoManagers.insert id (m.setModified modified).1)
      simp only
      split
      · exact hset.foldl fun editor _ _ _ h =>
          h.report hact editor (.documentModifiedChanged modified)
      · exact hset

/-- The undo managers that are being informed are in use. -/
theorem Counterpart.withInformed (h : Counterpart σ busy w v) (informed : List Nat)
    (hinformed : ∀ id ∈ informed, σ.spare id = false) :
    Counterpart σ busy { w with informed } { v with informed } := by
  have hproper : Proper σ { w with informed } :=
    { h.proper with
      spare := fun id hid => ⟨(h.proper.spare id hid).1,
        { informed := fun hmem => Bool.false_ne_true ((hinformed id hmem).symm.trans hid)
          editor := (h.proper.spare id hid).2.editor
          sessions := (h.proper.spare id hid).2.sessions }⟩ }
  exact h.alike (f := fun w => { w with informed }) (fun _ _ _ => rfl) hproper
    (h.paced.congr rfl rfl)

theorem not_spare_of_informed (h : Proper σ w) {id : Nat} (hid : id ∈ w.informed) :
    σ.spare id = false := by
  cases hs : σ.spare id with
  | false => rfl
  | true => exact absurd hid (h.spare id hs).2.informed

theorem Counterpart.inform (h : Counterpart σ busy w v) (hact : Indifferent act) {id : Nat}
    (hid : σ.spare id = false) : Counterpart σ busy (w.inform act id) (v.inform act id) := by
  have hold : ∀ other ∈ w.informed, σ.spare other = false :=
    fun _ hmem => not_spare_of_informed h.proper hmem
  unfold Workspace.inform
  rw [h.isUndoManagerUsed, h.informed]
  split
  · refine (Counterpart.setModified (h.withInformed _ ?_) hact id true).withInformed _ hold
    intro other hmem
    rcases List.mem_cons.1 hmem with rfl | hmem
    · exact hid
    · exact hold other hmem
  · exact h

/-! ## Engine events -/

/-- No remnant hears anything. -/
theorem hear_remnant (hproper : Proper σ w) (hpaced : Paced σ busy w) (event : EngineEvent)
    {listener : EngineListener} (hlistener : σ.holds listener = true) :
    w.hear act event listener = w := by
  cases listener with
  | session id =>
      show w.sessionHears act event id = w
      unfold Workspace.sessionHears
      cases hs : w.sessions.get? id with
      | none => rfl
      | some s =>
          have hdetached := σ.detached id s hlistener ((hproper.records id hlistener).symm.trans hs)
          have hresting := (hpaced.reacting id s hs).trans (hpaced.resting id hlistener)
          simp [hdetached, hresting]
  | undoManager id =>
      show w.inform act id = w
      unfold Workspace.inform
      rw [spare_iff.1 (hproper.spare id hlistener).2]
      rfl
  | metadataRelay editor => cases hlistener
  | observer id => cases hlistener

/-- Nor does it where the remnants are gone. -/
theorem Counterpart.hear_absent (h : Counterpart σ busy w v) (event : EngineEvent)
    {listener : EngineListener} (hlistener : σ.holds listener = true) :
    v.hear act event listener = v := by
  cases listener with
  | session id =>
      show v.sessionHears act event id = v
      unfold Workspace.sessionHears
      rw [h.gone id hlistener]
  | undoManager id =>
      show v.inform act id = v
      unfold Workspace.inform
      rw [h.isUndoManagerUsed, spare_iff.1 (h.proper.spare id hlistener).2]
      rfl
  | metadataRelay editor => cases hlistener
  | observer id => cases hlistener

theorem Counterpart.hear (h : Counterpart σ busy w v) (hact : Indifferent act) (event : EngineEvent)
    {listener : EngineListener} (hlistener : σ.holds listener = false) :
    Counterpart σ busy (w.hear act event listener) (v.hear act event listener) := by
  cases listener with
  | session id => exact h.sessionHears hact hlistener event
  | undoManager id => exact h.inform hact hlistener
  | metadataRelay editor =>
      cases event with
      | metadataChanged set removed => exact h.report hact editor (.metadataChanged set removed)
      | _ => exact h
  | observer id => exact h.notify hact (.engine event) id

/-- An event is delivered to some of whom the others do not notice it. -/
theorem Counterpart.hearAll (h : Counterpart σ busy w v) (hact : Indifferent act)
    (event : EngineEvent) (listeners : List EngineListener) :
    Counterpart σ busy (listeners.foldl (fun w listener => w.hear act event listener) w)
      ((listeners.filter fun listener => !σ.holds listener).foldl
        (fun w listener => w.hear act event listener) v) := by
  induction listeners generalizing w v with
  | nil => exact h
  | cons listener rest ih =>
      cases hl : σ.holds listener with
      | true =>
          rw [List.filter_cons_of_neg (by simp [hl]), List.foldl_cons,
            hear_remnant h.proper h.paced event hl]
          exact ih h
      | false =>
          rw [List.filter_cons_of_pos (by simp [hl]), List.foldl_cons, List.foldl_cons]
          exact ih (h.hear hact event hl)

theorem Counterpart.publish (h : Counterpart σ busy w v) (hact : Indifferent act)
    (event : EngineEvent) : Counterpart σ busy (w.publish act event) (v.publish act event) := by
  unfold Workspace.publish SignalBus.deliver
  rw [h.bus, SignalBus.handlers_without]
  exact h.hearAll hact event _

/-! ## The queue -/

/-- The engine changes alike in both, but for its subscriptions. -/
theorem Counterpart.withEngine (h : Counterpart σ busy w v)
    {f : Engine EngineListener → Engine EngineListener}
    (hswap : ∀ e bus, f { e with bus } = { f e with bus })
    (hbus : ∀ e, (f e).bus = e.bus) :
    Counterpart σ busy { w with engine := f w.engine } { v with engine := f v.engine } := by
  obtain ⟨sessions, log, rfl⟩ := h.same
  refine ⟨⟨sessions, log, ?_⟩, h.sessions, h.gone, h.log, h.proper.congr rfl rfl rfl rfl rfl,
    h.paced.congr rfl rfl⟩
  have hengine : f { w.engine with bus := w.engine.bus.without σ.holds } =
      { f w.engine with bus := (f w.engine).bus.without σ.holds } := by
    rw [hswap, hbus]
  exact congrArg (fun engine => { w with engine, sessions, log }) hengine

theorem Counterpart.applyQueued (h : Counterpart σ busy w v) (hact : Indifferent act)
    (count : Nat) : Counterpart σ busy (w.applyQueued act count) (v.applyQueued act count) := by
  induction count generalizing w v with
  | zero => exact h
  | succ count ih =>
      have hpending : v.engine.pending = w.engine.pending :=
        h.common (·.engine.pending) fun _ _ _ => rfl
      unfold Workspace.applyQueued Engine.applyNext?
      rw [hpending, h.replica]
      cases w.engine.pending with
      | nil => exact h
      | cons batch rest =>
          have hnext := h.withEngine
            (f := fun e =>
              { e with replica := (w.engine.replica.applyBatch batch).1, pending := rest })
            (fun _ _ => rfl) fun _ => rfl
          exact ih (hnext.foldl fun event _ _ _ h => h.publish hact event)

theorem Counterpart.flush (h : Counterpart σ busy w v) (hact : Indifferent act) :
    Counterpart σ busy (w.flush act) (v.flush act) := by
  unfold Workspace.flush
  rw [h.potential]
  exact h.applyQueued hact _

theorem Counterpart.followUp (h : Counterpart σ busy w v) (hact : Indifferent act) :
    Counterpart σ busy (w.followUp act) (v.followUp act) := by
  have himmediate : v.engine.immediate = w.engine.immediate :=
    h.common (·.engine.immediate) fun _ _ _ => rfl
  unfold Workspace.followUp
  rw [himmediate]
  split
  · exact h.flush hact
  · exact h

end Counterpart


end Workspace

end Coedit
