import Coedit.Signal.Bus

/-!
# Observers

An observer notes every event that it hears. For its first few events it also carries out a
list of commands, and notes the reply to each.
-/

namespace Coedit

/-- An observer whose commands are of type `γ`; `remaining` counts the events that it will
still answer with them. -/
structure Observer (γ : Type) where
  label : String
  actions : List γ
  remaining : Nat
  deriving Repr

namespace Observer

variable {γ : Type}

/-- The commands to carry out about an event, and the observer that is left. -/
def answer (o : Observer γ) : List γ × Observer γ :=
  if o.remaining = 0 then ([], o) else (o.actions, { o with remaining := o.remaining - 1 })

@[simp] theorem answer_label (o : Observer γ) : o.answer.2.label = o.label := by
  unfold answer
  split <;> rfl

theorem answer_actions (o : Observer γ) : o.answer.2.actions = o.actions := by
  unfold answer
  split <;> rfl

theorem mem_answer {o : Observer γ} {c : γ} (h : c ∈ o.answer.1) : c ∈ o.actions := by
  unfold answer at h
  split at h
  · cases h
  · exact h

theorem answer_of_remaining {o : Observer γ} (h : 0 < o.remaining) :
    o.answer = (o.actions, { o with remaining := o.remaining - 1 }) := by
  simp [answer, Nat.pos_iff_ne_zero.1 h]

theorem answer_of_spent {o : Observer γ} (h : o.remaining = 0) : o.answer = ([], o) := by
  simp [answer, h]

end Observer

/-- What an observer notes: an event, or the reply to one of its commands. -/
inductive Note (ε ρ : Type) where
  | heard (label : String) (event : ε)
  | did (label : String) (reply : ρ)
  deriving DecidableEq, Repr

/-- Carries out commands in order; each reply is noted before the next command starts. -/
def carryOut {γ ρ σ : Type} (act : γ → σ → ρ × σ) (note : ρ → σ → σ) : List γ → σ → σ
  | [], s => s
  | c :: rest, s =>
    let (reply, s) := act c s
    carryOut act note rest (note reply s)

end Coedit
