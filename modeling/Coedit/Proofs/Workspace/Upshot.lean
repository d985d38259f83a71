import Coedit.Proofs.Workspace.Attempt
import Coedit.Workspace.Execution

/-!
# What commands leave

Whether a command is answered with what was asked for or with a failure, the workspace that it
leaves is the one left by the operation behind it. What holds of that one holds after the command.
-/

namespace Coedit.Workspace

variable {act : Conduct} {w : Workspace} {e : Editor} {P : Workspace → Prop}

theorem reply_snd {ε : Type} (failure : ε → Failure) (r : Except ε Unit × Workspace) :
    (reply failure r).2 = r.2 := by
  obtain ⟨result, w⟩ := r
  cases result <;> rfl

theorem of_reply {ε : Type} {failure : ε → Failure} {made : Except ε Unit × Workspace}
    (h : P made.2) : P (reply failure made).2 := by
  rw [reply_snd]
  exact h

/-! ## Sessions -/

/-- An edit is queued, and followed up if there was anything to queue. -/
theorem of_edit {id : Nat} {change : Edit} (hqueued : P (w.queueEdit id change).2)
    (hfollow : ∀ w', P w' → P (w'.followUp act)) : P (w.edit act id change).2 := by
  unfold Workspace.edit
  cases hr : w.queueEdit id change with
  | mk result w' =>
      rw [hr] at hqueued
      cases result with
      | error cause => exact hqueued
      | ok made =>
          simp only
          split
          · exact hfollow w' hqueued
          · exact hqueued

theorem doSession_ask_snd (id : Nat) (query : SessionQuery) :
    (w.doSession act id (.ask query)).2 = w := by
  simp only [doSession]
  cases w.sessions.get? id <;> rfl

theorem doSession_edit_snd (id : Nat) (e : Edit) :
    (w.doSession act id (.edit e)).2 = (w.edit act id e).2 := by
  simp only [doSession]
  generalize w.edit act id e = edited
  obtain ⟨answer, w'⟩ := edited
  cases answer <;> rfl

/-! ## The editor -/

theorem doEditor_metadata_snd (property : String) :
    (w.doEditor act e (.metadata property)).2 = w := by
  simp only [doEditor]
  cases w.metadata? e property <;> rfl

theorem of_setModified {modified : Bool} (hunmanaged : P w)
    (hmanaged : ∀ id, e.undoManager = some id → P (w.setModified act id modified)) :
    P (w.doEditor act e (.setModified modified)).2 := by
  unfold doEditor
  cases hmanager : e.undoManager with
  | none => exact hunmanaged
  | some id => exact hmanaged id hmanager

/-- The editor takes over what it is told of the member, and its session submits it. -/
theorem of_setUser {user : MemberProperties}
    (hset : P (w.modifyEditor fun e => { e with user := user.withDefaults }))
    (hedit : ∀ session, openSession? e = some session →
      P ((w.modifyEditor fun e => { e with user := user.withDefaults }).edit act session
        (.updateMember user.withDefaults)).2) :
    P ((setUser act e user).result w).2 := by
  unfold setUser
  rw [Attempt.result_bind_of_ok (Attempt.result_modify _ w)]
  cases hsession : openSession? e with
  | none => exact hset
  | some session =>
      have hedited := hedit session hsession
      simp only [Attempt.result_of]
      cases hr : edit act session (.updateMember user.withDefaults)
          (w.modifyEditor fun e => { e with user := user.withDefaults }) with
      | mk answer w' =>
          rw [hr] at hedited
          cases answer <;> exact hedited

theorem of_setMetadata {set : Dict String String} {removed : List String} (hrefused : P w)
    (hsubmit : P (w.submit act [.updateMetadata e.member set removed]).2) :
    P ((setMetadata act e set removed).result w).2 := by
  unfold setMetadata
  cases openSession? e with
  | none => exact hrefused
  | some session =>
      simp only [result_byEngine]
      exact hsubmit

end Coedit.Workspace
