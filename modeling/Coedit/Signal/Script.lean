import Coedit.Dict
import Coedit.Signal.Observer

/-!
# Scripted buses

A bus together with observers that may work on the same bus while it delivers an event to
them. Every command carried out by an observer lowers a count, so scripts come to an end;
`execute` allows for as much nesting as the counts permit.
-/

namespace Coedit

class BusEvent (ε : Type) (κ : outParam Type) where
  kind : ε → κ

inductive BusCommand (κ ε : Type) where
  | subscribe (kind : κ) (label : String) (actions : List (BusCommand κ ε)) (times : Nat)
  | unsubscribe (kind : κ) (id : Nat)
  | emit (event : ε)
  | clear
  | count (kind : κ)
  | isDeclared (kind : κ)
  | describe

inductive BusReply where
  | done
  | failed (cause : SignalError)
  | subscribed (id : Nat)
  | count (n : Nat)
  | declared (yes : Bool)
  | description (text : String)
  deriving DecidableEq, Repr

/-- A bus with its observers, each under the identifier of its subscription. An observer
stays known when its subscription ends, since a delivery under way still reaches it. -/
structure ScriptedBus (κ ε : Type) where
  bus : SignalBus κ Nat
  observers : Dict Nat (Observer (BusCommand κ ε)) := ∅
  log : List (Note ε BusReply) := []

namespace BusCommand

variable {κ ε : Type}

mutual

/-- An upper bound for the nesting that a command can lead to. -/
def weight : BusCommand κ ε → Nat
  | subscribe _ _ actions times => 1 + times * weights actions
  | _ => 1

def weights : List (BusCommand κ ε) → Nat
  | [] => 0
  | c :: rest => weight c + weights rest

end

end BusCommand

namespace SignalBus

variable {κ η : Type} [SignalKind κ]

def dedupeKinds : List κ → List κ
  | [] => []
  | k :: rest => k :: (dedupeKinds rest).filter (· != k)

def describe (bus : SignalBus κ η) : String :=
  "SignalBus \x7b declared: \x7b"
    ++ String.intercalate ", " ((dedupeKinds bus.declared).map SignalKind.name)
    ++ "\x7d, .. \x7d"

end SignalBus

namespace ScriptedBus

variable {κ ε : Type} [SignalKind κ] [BusEvent ε κ]

def ofKinds (kinds : List κ) : ScriptedBus κ ε := { bus := { declared := kinds } }

def note (n : Note ε BusReply) (s : ScriptedBus κ ε) : ScriptedBus κ ε :=
  { s with log := s.log ++ [n] }

def notify (act : BusCommand κ ε → ScriptedBus κ ε → BusReply × ScriptedBus κ ε) (event : ε)
    (id : Nat) (s : ScriptedBus κ ε) : ScriptedBus κ ε :=
  match s.observers.get? id with
  | none => s
  | some o =>
    let (actions, rest) := o.answer
    let s := s.note (.heard o.label event)
    carryOut act (fun reply => note (.did o.label reply)) actions
      { s with observers := s.observers.insert id rest }

def perform : Nat → BusCommand κ ε → ScriptedBus κ ε → BusReply × ScriptedBus κ ε
  | 0, _, s => (.done, s)
  | depth + 1, command, s =>
    match command with
    | .subscribe kind label actions times =>
      match s.bus.subscribe kind s.bus.nextId with
      | .error cause => (.failed cause, s)
      | .ok (id, bus) =>
        let observer := { label, actions, remaining := times }
        (.subscribed id, { s with bus, observers := s.observers.insert id observer })
    | .unsubscribe kind id => (.done, { s with bus := s.bus.unsubscribe kind id })
    | .emit event =>
      match s.bus.emit (BusEvent.kind event) (notify (perform depth) event) s with
      | (.ok (), s) => (.done, s)
      | (.error cause, s) => (.failed cause, s)
    | .clear => (.done, { s with bus := s.bus.clear })
    | .count kind => (.count (s.bus.subscriberCount kind), s)
    | .isDeclared kind => (.declared (s.bus.isDeclared kind), s)
    | .describe => (.description s.bus.describe, s)

/-- The nesting that the observers' remaining commands can lead to. -/
def potential (s : ScriptedBus κ ε) : Nat :=
  s.observers.toList.foldr (fun e n => e.2.remaining * BusCommand.weights e.2.actions + n) 0

def execute (command : BusCommand κ ε) (s : ScriptedBus κ ε) : BusReply × ScriptedBus κ ε :=
  perform (s.potential + command.weight) command s

end ScriptedBus

end Coedit
