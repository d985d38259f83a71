/-!
# Signal buses

A bus is built from the closed set of event kinds that a component announces. Handlers
subscribe to one kind each; emitting an event hands it to the handlers of its kind that are
subscribed at that moment, in subscription order. Subscribing to a kind outside the set, or
emitting one, is an error and changes nothing.
-/

namespace Coedit

inductive SignalError where
  | invalidSignalKind (name : String)
  deriving DecidableEq, Repr

def SignalError.message : SignalError → String
  | .invalidSignalKind name => "signal kind " ++ name ++ " is not declared on this bus"

/-- Event kinds, with the name that messages use. -/
class SignalKind (κ : Type) extends BEq κ, LawfulBEq κ where
  name : κ → String

structure Subscription (κ η : Type) where
  id : Nat
  kind : κ
  handler : η
  deriving Repr

/-- `nextId` is never lowered, so an identifier stands for one subscription for ever. -/
structure SignalBus (κ η : Type) where
  declared : List κ
  subscriptions : List (Subscription κ η) := []
  nextId : Nat := 0
  deriving Repr

namespace SignalBus

variable {κ η σ : Type} [SignalKind κ]

def isDeclared (bus : SignalBus κ η) (kind : κ) : Bool := bus.declared.contains kind

def checkDeclared (bus : SignalBus κ η) (kind : κ) : Except SignalError Unit :=
  if bus.isDeclared kind then .ok () else .error (.invalidSignalKind (SignalKind.name kind))

/-- Adds a handler behind all others; the result is its subscription's identifier. -/
def subscribe (bus : SignalBus κ η) (kind : κ) (handler : η) :
    Except SignalError (Nat × SignalBus κ η) :=
  match bus.checkDeclared kind with
  | .error e => .error e
  | .ok () => .ok (bus.nextId,
      { bus with
        subscriptions := bus.subscriptions ++ [{ id := bus.nextId, kind, handler }]
        nextId := bus.nextId + 1 })

def unsubscribe (bus : SignalBus κ η) (kind : κ) (id : Nat) : SignalBus κ η :=
  { bus with subscriptions := bus.subscriptions.filter fun s => !(s.kind == kind && s.id == id) }

def clear (bus : SignalBus κ η) : SignalBus κ η := { bus with subscriptions := [] }

def handlers (bus : SignalBus κ η) (kind : κ) : List η :=
  (bus.subscriptions.filter (·.kind == kind)).map (·.handler)

def subscriberCount (bus : SignalBus κ η) (kind : κ) : Nat := (bus.handlers kind).length

/-- Invokes the handlers of `kind` one after the other on a state. The list of handlers is
fixed at the start: what the invocations do to the bus does not reach this emission. -/
def deliver (bus : SignalBus κ η) (kind : κ) (invoke : η → σ → σ) (state : σ) : σ :=
  (bus.handlers kind).foldl (fun s h => invoke h s) state

def emit (bus : SignalBus κ η) (kind : κ) (invoke : η → σ → σ) (state : σ) :
    Except SignalError Unit × σ :=
  match bus.checkDeclared kind with
  | .error e => (.error e, state)
  | .ok () => (.ok (), bus.deliver kind invoke state)

@[simp] theorem handlers_clear (bus : SignalBus κ η) (kind : κ) :
    bus.clear.handlers kind = [] := rfl

/-- A subscription gets the next number and the last place. -/
theorem subscribe_spec {bus bus' : SignalBus κ η} {kind : κ} {handler : η} {id : Nat}
    (h : bus.subscribe kind handler = .ok (id, bus')) :
    id = bus.nextId ∧ bus'.nextId = bus.nextId + 1 ∧
      bus'.subscriptions = bus.subscriptions ++ [{ id := bus.nextId, kind, handler }] := by
  unfold subscribe at h
  split at h
  · cases h
  · cases h
    exact ⟨rfl, rfl, rfl⟩

theorem declared_of_subscribe {bus bus' : SignalBus κ η} {kind : κ} {handler : η} {id : Nat}
    (h : bus.subscribe kind handler = .ok (id, bus')) : bus'.declared = bus.declared := by
  unfold subscribe at h
  split at h
  · cases h
  · cases h
    rfl

theorem emit_of_undeclared {bus : SignalBus κ η} {kind : κ} (h : bus.isDeclared kind = false)
    (invoke : η → σ → σ) (state : σ) :
    bus.emit kind invoke state = (.error (.invalidSignalKind (SignalKind.name kind)), state) := by
  simp [emit, checkDeclared, h]

end SignalBus

end Coedit
