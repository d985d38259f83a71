import Coedit.Engine.Error

/-!
# Teardown

Components are torn down one after the other. The first failure ends the sequence: what
comes behind it is not even begun, because a view must be gone before the model that it
shows.
-/

namespace Coedit

inductive TeardownError where
  | component (component reason : String)
  | engine (cause : EngineError)
  deriving DecidableEq, Repr

namespace TeardownError

def message : TeardownError → String
  | component part reason => "failed to tear down " ++ part ++ ": " ++ reason
  | engine cause => "engine failed during teardown: " ++ cause.message

def causes : TeardownError → List String
  | component _ _ => []
  | engine cause => cause.message :: cause.causes

end TeardownError

abbrev TeardownAction (σ : Type) := σ → Except TeardownError Unit × σ

/-- Runs actions in order until one fails. -/
def tearDownAll {σ : Type} : List (TeardownAction σ) → σ → Except TeardownError Unit × σ
  | [], s => (.ok (), s)
  | action :: rest, s =>
    match action s with
    | (.ok (), s) => tearDownAll rest s
    | (.error e, s) => (.error e, s)

/-- How a step does its work: a component is told, a function is called, or a job is created
that has to be resumed `pauses` times before it ends. -/
inductive TeardownWork where
  | component
  | call
  | job (pauses : Nat)
  deriving DecidableEq, Repr

structure TeardownStep where
  label : String
  work : TeardownWork
  failure : Option TeardownError := none
  deriving DecidableEq, Repr

inductive TeardownNote where
  | told (label : String)
  | called (label : String)
  | created (label : String)
  | started (label : String)
  | paused (label : String)
  | ended (label : String) (succeeded : Bool)
  deriving DecidableEq, Repr

namespace TeardownStep

def outcome (s : TeardownStep) : Except TeardownError Unit :=
  match s.failure with
  | some e => .error e
  | none => .ok ()

def notes (s : TeardownStep) : List TeardownNote :=
  match s.work with
  | .component => [.told s.label]
  | .call => [.called s.label]
  | .job pauses =>
    .created s.label :: .started s.label ::
      (List.replicate pauses (.paused s.label) ++ [.ended s.label s.failure.isNone])

def run (s : TeardownStep) : TeardownAction (List TeardownNote) :=
  fun notes => (s.outcome, notes ++ s.notes)

/-- Runs steps in order; the result is what was seen, and the first failure. -/
def destroyAll (steps : List TeardownStep) : Except TeardownError Unit × List TeardownNote :=
  tearDownAll (steps.map run) []

end TeardownStep

end Coedit
