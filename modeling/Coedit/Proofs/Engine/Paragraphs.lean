import Coedit.Document.Builder
import Coedit.Document.Plain
import Coedit.Proofs.Engine.Styles

/-!
# Paragraphs and what they resolve to

Paragraphs are numbered from 1 in document order, and no operation renumbers them. What a
paragraph resolves to, the common style that its attached style leads to, changes with the
attached style, which is announced, or with the style graph, which need not be.
-/

namespace Coedit

namespace Document

def Numbered (d : Document) : Prop :=
  d.paragraphs.map (·.id) = List.range' 1 d.paragraphs.length

theorem numbered_empty : Numbered {} := rfl

theorem numbered_addParagraph {d : Document} (h : d.Numbered) (text : String) (style : StyleId) :
    (d.addParagraph text style).Numbered := by
  unfold Numbered at h ⊢
  simp only [addParagraph, List.map_append, List.map_cons, List.map_nil, List.length_append,
    List.length_singleton, h, List.range'_concat]
  simp [Nat.add_comm]

theorem numbered_build (steps : List BuildStep) : (build steps).Numbered := by
  unfold build
  suffices h : ∀ d : Document, d.Numbered → (steps.foldl apply d).Numbered from
    h {} numbered_empty
  induction steps with
  | nil => exact fun _ h => h
  | cons step rest ih =>
      intro d h
      refine ih _ ?_
      cases step with
      | paragraph text style => exact numbered_addParagraph h text style
      | styleProperty id group key value =>
          simp only [apply, modifyDefinition]
          split <;> exact h
      | _ => exact h

theorem numbered_ofText (text : String) : (ofText text).Numbered := by
  unfold ofText
  suffices h : ∀ d : Document, d.Numbered → ((Text.lines text).foldl addLine d).Numbered from
    h {} numbered_empty
  induction Text.lines text with
  | nil => exact fun _ h => h
  | cons line rest ih =>
      intro d h
      refine ih _ ?_
      unfold addLine
      split
      · refine numbered_addParagraph ?_ _ _
        unfold declareStyle
        split <;> exact h
      · exact numbered_addParagraph h _ _

def Distinct (d : Document) : Prop := (d.paragraphs.map (·.id)).Nodup

theorem Numbered.distinct {d : Document} (h : d.Numbered) : d.Distinct := by
  unfold Distinct
  rw [h]
  exact List.nodup_range'

theorem map_paragraph_spansFrom (start : StepPosition) (paragraphs : List Paragraph) :
    (spansFrom start paragraphs).map (·.paragraph) = paragraphs := by
  induction paragraphs generalizing start with
  | nil => rfl
  | cons p rest ih => simp [spansFrom, ih]

/-- Where numbers are not repeated, a span is found under its paragraph's number. -/
theorem find?_span {spans : List Span} (h : (spans.map fun s => s.paragraph.id).Nodup)
    {span : Span} (hmem : span ∈ spans) :
    spans.find? (·.paragraph.id == span.paragraph.id) = some span := by
  induction spans with
  | nil => cases hmem
  | cons first rest ih =>
      obtain ⟨hfirst, hrest⟩ := List.nodup_cons.1 h
      rcases List.mem_cons.1 hmem with rfl | hmem
      · simp
      · have hne : (first.paragraph.id == span.paragraph.id) = false := by
          rw [beq_eq_false_iff_ne]
          intro heq
          exact hfirst (List.mem_map.2 ⟨span, hmem, heq.symm⟩)
        rw [List.find?_cons, hne]
        exact ih hrest hmem

theorem paragraph?_of_mem_range {d : Document} (h : d.Distinct) {range : StepPosition × StepPosition}
    {info : ParagraphInfo} (hmem : info ∈ d.paragraphsInRange range) :
    d.paragraph? info.paragraph = some info := by
  unfold paragraphsInRange at hmem
  obtain ⟨span, hspan, rfl⟩ := List.mem_map.1 hmem
  have hnodup : (d.spans.map fun s => s.paragraph.id).Nodup := by
    have hids := congrArg (List.map Paragraph.id) (map_paragraph_spansFrom 0 d.paragraphs)
    rw [List.map_map] at hids
    unfold spans
    rw [show (fun s : Span => s.paragraph.id) = Paragraph.id ∘ fun s => s.paragraph from rfl, hids]
    exact h
  unfold paragraph?
  rw [show span.info.paragraph = span.paragraph.id from rfl,
    find?_span hnodup (List.mem_filter.1 hspan).1]
  rfl

theorem paragraph?_of_paragraphAt? {d : Document} (h : d.Distinct) {position : StepPosition}
    {info : ParagraphInfo} (hinfo : d.paragraphAt? position = some info) :
    d.paragraph? info.paragraph = some info :=
  paragraph?_of_mem_range h (List.mem_of_head? hinfo)

theorem paragraph_of_paragraph? {d : Document} {p : ParagraphRef} {info : ParagraphInfo}
    (h : d.paragraph? p = some info) : info.paragraph = p := by
  unfold paragraph? at h
  obtain ⟨span, hspan, rfl⟩ := Option.map_eq_some_iff.1 h
  have hfound := List.find?_some hspan
  exact beq_iff_eq.1 hfound

/-- The style attached to a paragraph is that of the first one with its number. -/
theorem style_paragraph? (d : Document) (p : ParagraphRef) :
    (d.paragraph? p).map (·.style) = (d.paragraphs.find? (·.id == p)).map (·.style) := by
  unfold paragraph? spans
  suffices h : ∀ start, (((spansFrom start d.paragraphs).find? (·.paragraph.id == p)).map
      (·.info)).map (·.style) = (d.paragraphs.find? (·.id == p)).map (·.style) from h 0
  induction d.paragraphs with
  | nil => exact fun _ => rfl
  | cons first rest ih =>
      intro start
      rw [spansFrom, List.find?_cons, List.find?_cons]
      cases first.id == p with
      | true => rfl
      | false => exact ih _

/-! ## The style graph under a change of definitions -/

structure SameGraph (styles styles' : Dict StyleId Style) : Prop where
  size : styles'.size = styles.size
  parent : ∀ id, (styles'.get? id).map (·.parent) = (styles.get? id).map (·.parent)
  automatic : ∀ id, (styles'.get? id).map (·.automatic) = (styles.get? id).map (·.automatic)

theorem chainFrom_sameGraph {styles styles' : Dict StyleId Style} (h : SameGraph styles styles')
    (steps : Nat) (seen : List StyleId) (next : Option StyleId) :
    chainFrom styles' steps seen next = chainFrom styles steps seen next := by
  induction steps generalizing seen next with
  | zero => rfl
  | succ steps ih =>
      cases next with
      | none => rfl
      | some id =>
          have hparent := h.parent id
          unfold chainFrom
          split
          · rfl
          · cases hs : styles.get? id with
            | none =>
                cases hs' : styles'.get? id with
                | none => rfl
                | some s' => simp [hs, hs'] at hparent
            | some s =>
                cases hs' : styles'.get? id with
                | none => simp [hs, hs'] at hparent
                | some s' =>
                    simp only [hs, hs', Option.map_some, Option.some.injEq] at hparent
                    simp only [hparent, ih]

theorem commonStyleName_sameGraph {d d' : Document} (h : SameGraph d.styles d'.styles)
    (style : StyleId) : d'.commonStyleName style = d.commonStyleName style := by
  have hchain : d'.parentChain style = d.parentChain style := by
    unfold parentChain
    rw [h.size, chainFrom_sameGraph h]
  have hcommon : d'.isCommon = d.isCommon := by
    funext id
    have hkind := h.automatic id
    unfold isCommon
    cases hs : d.styles.get? id with
    | none =>
        cases hs' : d'.styles.get? id with
        | none => rfl
        | some s' => simp [hs, hs'] at hkind
    | some s =>
        cases hs' : d'.styles.get? id with
        | none => simp [hs, hs'] at hkind
        | some s' =>
            simp only [hs, hs', Option.map_some, Option.some.injEq] at hkind
            simp [hkind]
  unfold commonStyleName
  rw [hchain, hcommon]

theorem sameGraph_modifyDefinition (d : Document) (id : StyleId)
    (f : StyleDefinition → StyleDefinition) :
    SameGraph d.styles (d.modifyDefinition id f).styles := by
  unfold modifyDefinition
  split
  · exact ⟨rfl, fun _ => rfl, fun _ => rfl⟩
  · refine ⟨?_, Dict.map_get?_modify (by intro s; rfl) d.styles id,
      Dict.map_get?_modify (by intro s; rfl) d.styles id⟩
    simp [Dict.size, Dict.modify, Dict.mapValues]

end Document

namespace Replica

/-- The common style that a paragraph resolves to; the default style if there is none. -/
def resolved? (r : Replica) (p : ParagraphRef) : Option StyleId :=
  (r.document.paragraph? p).map fun info =>
    (r.document.commonStyleName info.style).getD .default

theorem resolved?_eq (r : Replica) (p : ParagraphRef) :
    r.resolved? p = ((r.document.paragraphs.find? (·.id == p)).map (·.style)).map fun style =>
      (r.document.commonStyleName style).getD .default := by
  rw [← Document.style_paragraph?, Option.map_map]
  rfl

theorem resolved?_congr {r r' : Replica} {p : ParagraphRef}
    (hattached : (r'.document.paragraphs.find? (·.id == p)).map (·.style) =
      (r.document.paragraphs.find? (·.id == p)).map (·.style))
    (hgraph : Document.SameGraph r.document.styles r'.document.styles) :
    r'.resolved? p = r.resolved? p := by
  rw [resolved?_eq, resolved?_eq, hattached]
  congr 1
  funext style
  rw [Document.commonStyleName_sameGraph hgraph]

/-! ## Operations -/

theorem find?_restyleFirst {paragraph p : ParagraphRef} (h : p ≠ paragraph) (style : StyleId)
    (l : List Paragraph) :
    (restyleFirst paragraph style l).find? (·.id == p) = l.find? (·.id == p) := by
  induction l with
  | nil => rfl
  | cons first rest ih =>
      unfold restyleFirst
      split
      · rename_i hfirst
        have hne : (first.id == p) = false := by
          rw [beq_eq_false_iff_ne, hfirst]
          exact Ne.symm h
        simp only [List.find?_cons, hne]
      · rw [List.find?_cons, List.find?_cons, ih]

theorem map_restyleFirst {α : Type} {f : Paragraph → α} (h : ∀ p style, f { p with style } = f p)
    (paragraph : ParagraphRef) (style : StyleId) (l : List Paragraph) :
    (restyleFirst paragraph style l).map f = l.map f := by
  induction l with
  | nil => rfl
  | cons first rest ih =>
      unfold restyleFirst
      split
      · rw [List.map_cons, List.map_cons, h]
      · rw [List.map_cons, List.map_cons, ih]

/-- An operation that leaves the styles alone changes what a paragraph resolves to only by
attaching a style to it, which is announced. -/
theorem announced_apply {op : Operation} (h : op.changesStyles = false) {r : Replica}
    {p : ParagraphRef} (hne : (r.apply op).1.resolved? p ≠ r.resolved? p) :
    ∃ member, .paragraphChanged p member ∈ (r.apply op).2 := by
  cases op with
  | addStyle => exact Bool.noConfusion h
  | removeStyle => exact Bool.noConfusion h
  | setParagraphStyle member paragraph position style =>
      simp only [apply] at hne ⊢
      split at hne
      · rename_i hany
        rw [if_pos hany]
        by_cases hp : p = paragraph
        · exact ⟨member, by simp [hp]⟩
        · refine (hne (resolved?_congr ?_ ⟨rfl, fun _ => rfl, fun _ => rfl⟩)).elim
          simp only [withDocument, find?_restyleFirst hp]
      · exact (hne rfl).elim
  | removeMember member =>
      refine (hne ?_).elim
      unfold resolved?
      simp only [apply, document_removeRecord, document_removeCursor]
  | removeCursor member =>
      refine (hne ?_).elim
      unfold resolved?
      simp only [apply, document_removeCursor]
  | moveCursor member position anchor kind =>
      refine (hne ?_).elim
      simp only [apply]
      split <;> rfl
  | updateParagraphStyle member style set removed =>
      refine (hne ?_).elim
      simp only [apply]
      split
      · refine resolved?_congr ?_ (Document.sameGraph_modifyDefinition r.document style _)
        simp only [withDocument, Document.modifyDefinition]
        split <;> rfl
      · rfl
  | _ => exact (hne rfl).elim

theorem announced_applyAll {batch : Batch} (h : ∀ op ∈ batch, op.changesStyles = false)
    {r : Replica} {p : ParagraphRef} (hne : (r.applyAll batch).1.resolved? p ≠ r.resolved? p) :
    ∃ member, .paragraphChanged p member ∈ (r.applyAll batch).2 := by
  induction batch generalizing r with
  | nil => exact (hne rfl).elim
  | cons op rest ih =>
      have hrest := ih (fun other hmem => h other (List.mem_cons_of_mem _ hmem)) (r := (r.apply op).1)
      simp only [applyAll] at hne ⊢
      by_cases hop : (r.apply op).1.resolved? p = r.resolved? p
      · obtain ⟨member, hmem⟩ := hrest (by rw [hop]; exact hne)
        exact ⟨member, List.mem_append_right _ hmem⟩
      · obtain ⟨member, hmem⟩ := announced_apply (h op List.mem_cons_self) hop
        exact ⟨member, List.mem_append_left _ hmem⟩

theorem announced_applyBatch {batch : Batch} (h : ∀ op ∈ batch, op.changesStyles = false)
    {r : Replica} {p : ParagraphRef}
    (hne : (r.applyBatch batch).1.resolved? p ≠ r.resolved? p) :
    ∃ member, .paragraphChanged p member ∈ (r.applyBatch batch).2 := by
  obtain ⟨member, hmem⟩ := announced_applyAll h hne
  refine ⟨member, ?_⟩
  unfold applyBatch
  simp only
  split
  · exact List.mem_append_left _ hmem
  · exact hmem

/-- No operation adds, removes or moves paragraphs, or changes anything about them but their
styles. -/
theorem map_paragraphs_apply {α : Type} {f : Paragraph → α}
    (h : ∀ p style, f { p with style } = f p) (r : Replica) (op : Operation) :
    (r.apply op).1.document.paragraphs.map f = r.document.paragraphs.map f := by
  cases op with
  | setParagraphStyle member paragraph position style =>
      simp only [apply]
      split
      · exact map_restyleFirst h paragraph style _
      · rfl
  | removeStyle member style family =>
      simp only [apply]
      split
      · simp only [withDocument, List.map_map]
        congr 1
        funext p
        simp only [Function.comp, detachStyle]
        split
        · exact h p _
        · rfl
      · rfl
  | removeMember member =>
      simp only [apply, document_removeRecord, document_removeCursor]
  | removeCursor member => simp only [apply, document_removeCursor]
  | moveCursor member position anchor kind =>
      simp only [apply]
      split <;> rfl
  | updateParagraphStyle member style set removed =>
      simp only [apply, Document.modifyDefinition]
      split
      · simp only [withDocument]
        split <;> rfl
      · rfl
  | _ => rfl

theorem map_paragraphs_applyAll {α : Type} {f : Paragraph → α}
    (h : ∀ p style, f { p with style } = f p) (r : Replica) (batch : Batch) :
    (r.applyAll batch).1.document.paragraphs.map f = r.document.paragraphs.map f := by
  induction batch generalizing r with
  | nil => rfl
  | cons op rest ih => exact (ih (r.apply op).1).trans (map_paragraphs_apply h r op)

theorem ids_apply (r : Replica) (op : Operation) :
    (r.apply op).1.document.paragraphs.map (·.id) = r.document.paragraphs.map (·.id) :=
  map_paragraphs_apply (fun _ _ => rfl) r op

theorem ids_applyAll (r : Replica) (batch : Batch) :
    (r.applyAll batch).1.document.paragraphs.map (·.id) = r.document.paragraphs.map (·.id) :=
  map_paragraphs_applyAll (fun _ _ => rfl) r batch

/-- A paragraph that resolves to a style still does so after a batch. -/
theorem resolved?_applyBatch_isSome {r : Replica} {p : ParagraphRef}
    (h : (r.resolved? p).isSome = true) (batch : Batch) :
    ((r.applyBatch batch).1.resolved? p).isSome = true := by
  have hids := ids_applyAll r batch
  have hiff : ∀ r : Replica, (r.resolved? p).isSome = true ↔
      p ∈ r.document.paragraphs.map (·.id) := by
    intro r
    rw [resolved?_eq, Option.isSome_map, Option.isSome_map, List.find?_isSome, List.mem_map]
    simp only [beq_iff_eq]
  rw [hiff] at h ⊢
  rw [document_applyBatch, hids]
  exact h

theorem distinct_applyBatch {r : Replica} (h : r.document.Distinct) (batch : Batch) :
    (r.applyBatch batch).1.document.Distinct := by
  unfold Document.Distinct
  rw [document_applyBatch, ids_applyAll r batch]
  exact h

theorem map_paragraphs_applied {α : Type} {f : Paragraph → α}
    (h : ∀ p style, f { p with style } = f p) (r : Replica) (batches : List Batch) :
    (batches.foldl (fun r batch => (r.applyBatch batch).1) r).document.paragraphs.map f =
      r.document.paragraphs.map f := by
  induction batches generalizing r with
  | nil => rfl
  | cons batch rest ih =>
      rw [List.foldl_cons, ih, document_applyBatch, map_paragraphs_applyAll h]

theorem distinct_applied {r : Replica} (h : r.document.Distinct) (batches : List Batch) :
    (batches.foldl (fun r batch => (r.applyBatch batch).1) r).document.Distinct := by
  unfold Document.Distinct
  rw [map_paragraphs_applied (fun _ _ => rfl) r batches]
  exact h

end Replica

end Coedit
