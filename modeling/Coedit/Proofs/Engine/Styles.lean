import Coedit.Engine.Replica
import Coedit.Proofs.Dict

/-!
# Styles that come and go

Only two kinds of operation change which styles a document has, and only they announce that a
style was created or deleted. A batch that a session makes holds one such operation and
nothing else, or none at all.
-/

namespace Coedit

def Operation.changesStyles : Operation → Bool
  | .addStyle .. | .removeStyle .. => true
  | _ => false

def Operation.addedStyle? : Operation → Option StyleId
  | .addStyle _ style _ _ => some style
  | _ => none

def Batch.addedStyles (batch : Batch) : List StyleId := batch.filterMap Operation.addedStyle?

/-- The style that an event says was created or deleted. -/
def EngineEvent.style? : EngineEvent → Option StyleId
  | .styleCreated style | .styleDeleted style => some style
  | _ => none

namespace Replica

inductive StyleStep (batch : Batch) : Prop where
  | add (member : MemberId) (style : StyleId) (family : StyleFamily)
      (properties : StyleDefinition) (h : batch = [.addStyle member style family properties])
  | remove (member : MemberId) (style : StyleId) (family : StyleFamily)
      (h : batch = [.removeStyle member style family])
  | keep (h : ∀ op ∈ batch, op.changesStyles = false)

/-! ## Operations that leave the styles alone -/

theorem contains_modifyDefinition (d : Document) (id : StyleId)
    (f : StyleDefinition → StyleDefinition) (style : StyleId) :
    (d.modifyDefinition id f).styles.contains style = d.styles.contains style := by
  unfold Document.modifyDefinition
  split
  · rfl
  · simp only [Dict.contains, Dict.get?_modify]
    split <;> simp

theorem document_removeCursor (r : Replica) (member : MemberId) :
    (r.removeCursor member).1.document = r.document := by
  unfold removeCursor
  split <;> rfl

theorem document_removeRecord (r : Replica) (member : MemberId) :
    (r.removeRecord member).1.document = r.document := by
  unfold removeRecord
  split <;> rfl

theorem contains_apply_of_keep {op : Operation} (h : op.changesStyles = false) (r : Replica)
    (style : StyleId) :
    (r.apply op).1.document.styles.contains style = r.document.styles.contains style := by
  cases op with
  | addStyle => exact Bool.noConfusion h
  | removeStyle => exact Bool.noConfusion h
  | removeMember member =>
      simp only [apply, document_removeRecord, document_removeCursor]
  | removeCursor member => simp only [apply, document_removeCursor]
  | updateParagraphStyle member id set removed =>
      simp only [apply]
      split
      · exact contains_modifyDefinition r.document id _ style
      · rfl
  | moveCursor | setParagraphStyle =>
      simp only [apply]
      split <;> rfl
  | _ => rfl

theorem style?_of_mem_removeCursor {r : Replica} {member : MemberId} {event : EngineEvent}
    (h : event ∈ (r.removeCursor member).2) : event.style? = none := by
  unfold removeCursor at h
  split at h <;> simp at h
  rw [h]
  rfl

theorem style?_of_mem_removeRecord {r : Replica} {member : MemberId} {event : EngineEvent}
    (h : event ∈ (r.removeRecord member).2) : event.style? = none := by
  unfold removeRecord at h
  split at h <;> simp at h
  rw [h]
  rfl

theorem style?_apply_of_keep {op : Operation} (h : op.changesStyles = false) {r : Replica}
    {event : EngineEvent} (hmem : event ∈ (r.apply op).2) : event.style? = none := by
  cases op with
  | addStyle => exact Bool.noConfusion h
  | removeStyle => exact Bool.noConfusion h
  | addMember member properties =>
      simp only [apply, List.mem_singleton] at hmem
      rw [hmem]
      split <;> rfl
  | removeMember member =>
      simp only [apply, List.mem_append] at hmem
      rcases hmem with hmem | hmem
      · exact style?_of_mem_removeCursor hmem
      · exact style?_of_mem_removeRecord hmem
  | removeCursor member => exact style?_of_mem_removeCursor hmem
  | insertStructuredContent member position content =>
      simp only [apply] at hmem
      split at hmem <;> simp at hmem
      rw [hmem]
      rfl
  | moveCursor | setParagraphStyle | updateParagraphStyle =>
      simp only [apply] at hmem
      split at hmem <;> simp at hmem
      rw [hmem]
      rfl
  | addCursor | updateMetadata =>
      simp only [apply, List.mem_singleton] at hmem
      rw [hmem]
      rfl

theorem contains_applyAll_of_keep {batch : Batch} (h : ∀ op ∈ batch, op.changesStyles = false)
    (r : Replica) (style : StyleId) :
    (r.applyAll batch).1.document.styles.contains style = r.document.styles.contains style := by
  induction batch generalizing r with
  | nil => rfl
  | cons op rest ih =>
      have hrest := ih (fun other hmem => h other (List.mem_cons_of_mem _ hmem)) (r.apply op).1
      simp only [applyAll]
      rw [hrest, contains_apply_of_keep (h op List.mem_cons_self)]

theorem style?_applyAll_of_keep {batch : Batch} (h : ∀ op ∈ batch, op.changesStyles = false)
    {r : Replica} {event : EngineEvent} (hmem : event ∈ (r.applyAll batch).2) :
    event.style? = none := by
  induction batch generalizing r with
  | nil => cases hmem
  | cons op rest ih =>
      simp only [applyAll, List.mem_append] at hmem
      rcases hmem with hmem | hmem
      · exact style?_apply_of_keep (h op List.mem_cons_self) hmem
      · exact ih (fun other hother => h other (List.mem_cons_of_mem _ hother)) hmem

/-! ## A whole batch -/

theorem document_applyBatch (r : Replica) (batch : Batch) :
    (r.applyBatch batch).1 = (r.applyAll batch).1 := rfl

theorem mem_applyBatch {r : Replica} {batch : Batch} {event : EngineEvent}
    (h : event ∈ (r.applyBatch batch).2) :
    event ∈ (r.applyAll batch).2 ∨ event = .undoStackChanged := by
  unfold applyBatch at h
  simp only at h
  split at h
  · simpa using h
  · exact .inl h

/-- The styles after a batch are those from before, less the removed one, and the added
one. -/
theorem contains_applyBatch {batch : Batch} (h : StyleStep batch) (r : Replica)
    {style : StyleId} (hmem : (r.applyBatch batch).1.document.styles.contains style = true) :
    style ∈ batch.addedStyles ∨ r.document.styles.contains style = true := by
  cases h with
  | add member added family properties hbatch =>
      subst hbatch
      simp only [applyBatch, applyAll, apply, withDocument, Dict.contains_insert,
        Bool.or_eq_true, decide_eq_true_eq] at hmem
      rcases hmem with rfl | hmem
      · exact .inl (by simp [Batch.addedStyles, Operation.addedStyle?])
      · exact .inr hmem
  | remove member removed family hbatch =>
      subst hbatch
      simp only [applyBatch, applyAll, apply] at hmem
      split at hmem
      · simp only [withDocument, Dict.contains_erase, Bool.and_eq_true] at hmem
        exact .inr hmem.2
      · exact .inr hmem
  | keep hkeep =>
      rw [document_applyBatch, contains_applyAll_of_keep hkeep] at hmem
      exact .inr hmem

/-- A style is announced as created by the batch that adds it, and as deleted only if the
document had it. -/
theorem style?_applyBatch {batch : Batch} (h : StyleStep batch) {r : Replica}
    {event : EngineEvent} {style : StyleId} (hmem : event ∈ (r.applyBatch batch).2)
    (hstyle : event.style? = some style) :
    style ∈ batch.addedStyles ∨ r.document.styles.contains style = true := by
  rcases mem_applyBatch hmem with hmem | rfl
  · cases h with
    | add member added family properties hbatch =>
        subst hbatch
        simp only [applyAll, apply, List.append_nil, List.mem_singleton] at hmem
        subst hmem
        simp only [EngineEvent.style?, Option.some.injEq] at hstyle
        exact .inl (by simp [Batch.addedStyles, Operation.addedStyle?, hstyle])
    | remove member removed family hbatch =>
        subst hbatch
        simp only [applyAll, apply] at hmem
        split at hmem
        · rename_i hcontains
          simp only [List.append_nil, List.mem_append, List.mem_map, List.mem_singleton] at hmem
          rcases hmem with ⟨p, -, rfl⟩ | rfl
          · cases hstyle
          · simp only [EngineEvent.style?, Option.some.injEq] at hstyle
            exact .inr (hstyle ▸ hcontains)
        · cases hmem
    | keep hkeep =>
        rw [style?_applyAll_of_keep hkeep hmem] at hstyle
        cases hstyle
  · cases hstyle

end Replica

end Coedit
