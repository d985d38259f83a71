import Coedit.Workspace.Editors

/-!
# What attempts come to

The result of an attempt, one equation for each way in which attempts are put together. What
an attempt did before a failure stays done, also when the failure is caught.
-/

namespace Coedit

namespace Attempt

variable {ε α β : Type}

theorem result_of (f : Workspace → Except ε α × Workspace) (w : Workspace) :
    (Attempt.of f).result w = f w := rfl

theorem result_modify (f : Workspace → Workspace) (w : Workspace) :
    (modify f : Attempt ε Unit).result w = (.ok (), f w) := rfl

theorem result_bind (a : Attempt ε α) (f : α → Attempt ε β) (w : Workspace) :
    (a >>= f).result w = match a.result w with
      | (.ok x, w') => (f x).result w'
      | (.error e, w') => (.error e, w') := by
  unfold result ExceptT.run StateT.run
  simp only [bind, ExceptT.bind, ExceptT.mk, StateT.bind]
  cases a w with
  | mk answer next => cases answer <;> rfl

theorem result_tryCatch (a : Attempt ε α) (handle : ε → Attempt ε α) (w : Workspace) :
    (tryCatch a handle).result w = match a.result w with
      | (.ok x, w') => (.ok x, w')
      | (.error e, w') => (handle e).result w' := by
  unfold result ExceptT.run StateT.run
  simp only [tryCatch, tryCatchThe, MonadExceptOf.tryCatch, ExceptT.tryCatch, ExceptT.mk, bind,
    StateT.bind]
  cases a w with
  | mk answer next => cases answer <;> rfl

theorem result_bind_of_ok {a : Attempt ε α} {f : α → Attempt ε β} {w w' : Workspace} {x : α}
    (h : a.result w = (.ok x, w')) : (a >>= f).result w = (f x).result w' := by
  rw [result_bind, h]

theorem result_bind_of_error {a : Attempt ε α} {f : α → Attempt ε β} {w w' : Workspace} {e : ε}
    (h : a.result w = (.error e, w')) : (a >>= f).result w = (.error e, w') := by
  rw [result_bind, h]

/-! ## Triples -/

/-- From a workspace with `P` the attempt comes to one with `Q` if it succeeds, and to one with
`E` if it fails. -/
def Triple (P : Workspace → Prop) (a : Attempt ε α) (Q : α → Workspace → Prop)
    (E : ε → Workspace → Prop) : Prop :=
  ∀ w, P w → match a.result w with
    | (.ok x, w') => Q x w'
    | (.error e, w') => E e w'

section Rules

variable {P P' : Workspace → Prop} {Q Q' : α → Workspace → Prop} {R : β → Workspace → Prop}
  {E E' : ε → Workspace → Prop}

theorem Triple.mono {a : Attempt ε α} (h : Triple P a Q E) (hP : ∀ w, P' w → P w)
    (hQ : ∀ x w, Q x w → Q' x w) (hE : ∀ e w, E e w → E' e w) : Triple P' a Q' E' := by
  intro w hw
  have ha := h w (hP w hw)
  cases hr : a.result w with
  | mk answer w' =>
      rw [hr] at ha
      cases answer with
      | ok x => exact hQ x w' ha
      | error e => exact hE e w' ha

theorem Triple.and {a : Attempt ε α} (h : Triple P a Q E) (h' : Triple P' a Q' E') :
    Triple (fun w => P w ∧ P' w) a (fun x w => Q x w ∧ Q' x w) (fun e w => E e w ∧ E' e w) := by
  intro w hw
  have ha := h w hw.1
  have ha' := h' w hw.2
  cases hr : a.result w with
  | mk answer w' =>
      rw [hr] at ha ha'
      cases answer <;> exact ⟨ha, ha'⟩

theorem Triple.bind {a : Attempt ε α} {f : α → Attempt ε β} (ha : Triple P a Q E)
    (hf : ∀ x, Triple (Q x) (f x) R E) : Triple P (a >>= f) R E := by
  intro w hw
  have hfirst := ha w hw
  rw [result_bind]
  cases hr : a.result w with
  | mk answer w' =>
      rw [hr] at hfirst
      cases answer with
      | ok x => exact hf x w' hfirst
      | error e => exact hfirst

theorem Triple.tryCatch {a : Attempt ε α} {handle : ε → Attempt ε α} (ha : Triple P a Q E)
    (hhandle : ∀ e, Triple (E e) (handle e) Q E') :
    Triple P (MonadExcept.tryCatch a handle) Q E' := by
  intro w hw
  have hfirst := ha w hw
  rw [result_tryCatch]
  cases hr : a.result w with
  | mk answer w' =>
      rw [hr] at hfirst
      cases answer with
      | ok x => exact hfirst
      | error e => exact hhandle e w' hfirst

theorem Triple.pure {x : α} (h : ∀ w, P w → Q x w) : Triple P (pure x : Attempt ε α) Q E := h

theorem Triple.throw {e : ε} (h : ∀ w, P w → E e w) : Triple P (throw e : Attempt ε α) Q E := h

theorem Triple.modify {f : Workspace → Workspace} {Q : Unit → Workspace → Prop}
    (h : ∀ w, P w → Q () (f w)) : Triple P (modify f : Attempt ε Unit) Q E := h

theorem Triple.modifyGet {f : Workspace → α × Workspace}
    (h : ∀ w, P w → Q (f w).1 (f w).2) : Triple P (modifyGet f : Attempt ε α) Q E := h

theorem Triple.exists {ι : Type} {P : ι → Workspace → Prop} {a : Attempt ε α}
    (h : ∀ i, Triple (P i) a Q E) : Triple (fun w => ∃ i, P i w) a Q E := by
  rintro w ⟨i, hw⟩
  exact h i w hw

/-- What the attempt comes to if success and failure lead to the same. -/
theorem Triple.result {S : Workspace → Prop} {a : Attempt ε α}
    (h : Triple P a (fun _ => S) (fun _ => S)) {w : Workspace} (hw : P w) : S (a.result w).2 := by
  have ha := h w hw
  cases hr : a.result w with
  | mk answer w' =>
      rw [hr] at ha
      cases answer <;> exact ha

end Rules

end Attempt

/-! ## Steps that others take for the editor -/

namespace Workspace

open Attempt (Triple)

variable {α : Type} {P S : Workspace → Prop} {Q : α → Workspace → Prop}
  {E : EditorError → Workspace → Prop} {f : Workspace → Except EngineError α × Workspace}

theorem result_byEngine (f : Workspace → Except EngineError α × Workspace) (w : Workspace) :
    (byEngine f).result w = ((f w).1.mapError .engine, (f w).2) := by
  unfold byEngine
  rw [Attempt.result_of]
  generalize f w = r
  obtain ⟨answer, w'⟩ := r
  cases answer <;> rfl

theorem result_bySession (f : Workspace → Except EngineError α × Workspace) (w : Workspace) :
    (bySession f).result w = ((f w).1.mapError fun cause => .session (.engine cause), (f w).2) := by
  unfold bySession
  rw [Attempt.result_of]
  generalize f w = r
  obtain ⟨answer, w'⟩ := r
  cases answer <;> rfl

/-- A step that succeeds. -/
theorem triple_byEngine (h : ∀ w, P w → ∃ a w', f w = (.ok a, w') ∧ Q a w') :
    Triple P (byEngine f) Q E := by
  intro w hw
  obtain ⟨a, w', hf, hQ⟩ := h w hw
  rw [result_byEngine, hf]
  exact hQ

theorem triple_bySession (h : ∀ w, P w → ∃ a w', f w = (.ok a, w') ∧ Q a w') :
    Triple P (bySession f) Q E := by
  intro w hw
  obtain ⟨a, w', hf, hQ⟩ := h w hw
  rw [result_bySession, hf]
  exact hQ

/-- A step that fails. -/
theorem triple_byEngine_of_error (h : ∀ w, P w → ∃ cause w', f w = (.error cause, w') ∧ S w') :
    Triple P (byEngine f) Q (fun _ => S) := by
  intro w hw
  obtain ⟨cause, w', hf, hS⟩ := h w hw
  rw [result_byEngine, hf]
  exact hS

/-- A step that may fail, of which only success matters. -/
theorem triple_byEngine_if (h : ∀ w a w', P w → f w = (.ok a, w') → Q a w') :
    Triple P (byEngine f) Q (fun _ _ => True) := by
  intro w hw
  rw [result_byEngine]
  cases hr : f w with
  | mk answer w' =>
      cases answer with
      | ok a => exact h w a w' hw hr
      | error cause => trivial

theorem triple_bySession_if (h : ∀ w a w', P w → f w = (.ok a, w') → Q a w') :
    Triple P (bySession f) Q (fun _ _ => True) := by
  intro w hw
  rw [result_bySession]
  cases hr : f w with
  | mk answer w' =>
      cases answer with
      | ok a => exact h w a w' hw hr
      | error cause => trivial

/-- A step that leaves the same, whether it fails or not. -/
theorem triple_byEngine_upshot (h : ∀ w, P w → S (f w).2) :
    Triple P (byEngine f) (fun _ => S) (fun _ => S) := by
  intro w hw
  have hdone := h w hw
  rw [result_byEngine]
  cases (f w).1 <;> exact hdone

theorem triple_byEngine_of_lasting (h : ∀ w, P w → P (f w).2) :
    Triple P (byEngine f) (fun _ => P) (fun _ => P) :=
  triple_byEngine_upshot h

theorem triple_bySession_of_lasting (h : ∀ w, P w → P (f w).2) :
    Triple P (bySession f) (fun _ => P) (fun _ => P) := by
  intro w hw
  have hdone := h w hw
  rw [result_bySession]
  cases (f w).1 <;> exact hdone

end Workspace

end Coedit
