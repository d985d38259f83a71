import Coedit.Proofs.Engine.Styles
import Coedit.Proofs.Identifier
import Coedit.Session.Edit

/-!
# What edits propose

An edit that clones a style proposes to add one style, under an identifier that is neither
reserved nor in the document, and reserves it. No other edit adds styles or reserves anything.
-/

namespace Coedit.SessionCore

open Replica (StyleStep)

/-- A new identifier is neither reserved nor a style of the document. -/
theorem freshStyleId_spec {s : SessionCore} {r : Replica} {displayName : String}
    {style : StyleId} (h : s.freshStyleId r displayName = .ok style) :
    style ∉ s.reserved ∧ r.document.styles.contains style = false := by
  unfold freshStyleId at h
  cases hu : Identifier.uniqueWithin (s.takenStyles r) (Identifier.synthesize displayName)
      s.salt with
  | error cause => simp [hu, Except.map] at h
  | ok text =>
      simp only [hu, Except.map, Except.ok.injEq] at h
      subst h
      obtain ⟨-, -, hfree⟩ := Identifier.attempt_of_uniqueWithin hu
      have htaken : ∀ taken ∈ s.reserved ++ r.document.styles.keys, taken ≠ ⟨text⟩ := by
        intro taken hmem heq
        exact hfree (List.mem_map.2 ⟨taken, hmem, by rw [heq]⟩)
      refine ⟨fun hmem => htaken _ (List.mem_append_left _ hmem) rfl, ?_⟩
      cases hc : r.document.styles.contains ⟨text⟩ with
      | false => rfl
      | true => exact (htaken _ (List.mem_append_right _ (Dict.mem_keys.2 hc)) rfl).elim

theorem proposeClone_spec {s : SessionCore} {r : Replica} {source : StyleId}
    {displayName : String} {p : Proposal} (h : s.proposeClone r source displayName = .ok p) :
    ∃ definition style, r.document.definition? source = some definition ∧
      s.freshStyleId r displayName = .ok style ∧
      p = { batch := [.addStyle s.member style .paragraph (definition.renamed displayName)]
            reserve := some style
            answer := .created style } := by
  unfold proposeClone at h
  cases hd : r.document.definition? source with
  | none => simp [hd] at h
  | some definition =>
      cases hf : s.freshStyleId r displayName with
      | error cause => simp [hd, hf] at h
      | ok style =>
          simp only [hd, hf, Except.ok.injEq] at h
          exact ⟨definition, style, rfl, rfl, h.symm⟩

theorem proposeInsert_spec {s : SessionCore} {r : Replica} {content : StructuredContent}
    {p : Proposal} (h : s.proposeInsert r content = .ok p) :
    ∃ cursor, content.validate = .ok () ∧ s.cursor? r = some cursor ∧
      p = { batch := [.insertStructuredContent s.member cursor.position content] } := by
  unfold proposeInsert at h
  cases hv : content.validate with
  | error fault => simp [hv] at h
  | ok _ =>
      cases hc : s.cursor? r with
      | none => simp [hv, hc] at h
      | some cursor =>
          simp only [hv, hc, Except.ok.injEq] at h
          exact ⟨cursor, rfl, rfl, h.symm⟩

structure Adds (s : SessionCore) (r : Replica) (style : StyleId) (p : Proposal) : Prop where
  reserve : p.reserve = some style
  answer : p.answer = .created style
  batch : ∃ definition, p.batch = [.addStyle s.member style .paragraph definition]
  unreserved : style ∉ s.reserved
  absent : r.document.styles.contains style = false

structure AddsNone (p : Proposal) : Prop where
  reserve : p.reserve = none
  answer : ∀ style, p.answer ≠ .created style
  step : StyleStep p.batch
  added : Batch.addedStyles p.batch = []

theorem proposeClone_adds {s : SessionCore} {r : Replica} {source : StyleId}
    {displayName : String} {p : Proposal} (h : s.proposeClone r source displayName = .ok p) :
    ∃ style, s.Adds r style p := by
  obtain ⟨definition, style, -, hfresh, rfl⟩ := proposeClone_spec h
  obtain ⟨hreserved, habsent⟩ := freshStyleId_spec hfresh
  exact ⟨style, rfl, rfl, ⟨_, rfl⟩, hreserved, habsent⟩

theorem addsNone_of_keep {p : Proposal} (hreserve : p.reserve = none)
    (hanswer : ∀ style, p.answer ≠ .created style)
    (hkeep : ∀ op ∈ p.batch, op.changesStyles = false) : AddsNone p where
  reserve := hreserve
  answer := hanswer
  step := .keep hkeep
  added := by
    unfold Batch.addedStyles
    rw [List.filterMap_eq_nil_iff]
    intro op hop
    have hk := hkeep op hop
    cases op <;> first | rfl | exact Bool.noConfusion hk

theorem proposeRestyle_addsNone (s : SessionCore) (r : Replica) (style : StyleId) :
    AddsNone (s.proposeRestyle r style) := by
  refine addsNone_of_keep rfl (fun _ h => by cases h) fun op hop => ?_
  obtain ⟨info, -, rfl⟩ := List.mem_map.1 hop
  rfl

theorem proposeInsert_addsNone {s : SessionCore} {r : Replica} {content : StructuredContent}
    {p : Proposal} (h : s.proposeInsert r content = .ok p) : AddsNone p := by
  obtain ⟨cursor, -, -, rfl⟩ := proposeInsert_spec h
  exact addsNone_of_keep rfl (fun _ h => by cases h) (by simp [Operation.changesStyles])

/-- Only cloning a style adds one. -/
theorem propose_cases {s : SessionCore} {r : Replica} {e : Edit} {p : Proposal}
    (h : s.propose r e = .ok p) :
    (∃ source displayName, e = .cloneStyle source displayName ∧ ∃ style, s.Adds r style p) ∨
      AddsNone p := by
  cases e with
  | cloneStyle source displayName =>
      exact .inl ⟨source, displayName, rfl, proposeClone_adds h⟩
  | deleteStyle style =>
      obtain rfl := Except.ok.inj h
      exact .inr ⟨rfl, fun _ h => (by cases h), .remove _ _ _ rfl, rfl⟩
  | setParagraphStyle style =>
      obtain rfl := Except.ok.inj h
      exact .inr (proposeRestyle_addsNone s r style)
  | insertContent content => exact .inr (proposeInsert_addsNone h)
  | updateMember | moveCursor | updateParagraphStyle =>
      obtain rfl := Except.ok.inj h
      exact .inr (addsNone_of_keep rfl (fun _ h => by cases h) (by simp [Operation.changesStyles]))

end Coedit.SessionCore
