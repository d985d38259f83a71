import Coedit.Proofs.Engine.Geometry
import Mathlib.Algebra.GroupWithZero.Nat
import Mathlib.Order.Monotone.Basic

/-!
# Positions are shared out among paragraphs

The steps of a document are shared out among its paragraphs in document order: each position
before the end belongs to one of them, and none beyond it to any. What is at a position, where a
paragraph starts and which paragraphs a selection meets are all answered from this division, and no
operation changes it.
-/

namespace Coedit

namespace Document

/-- The steps that paragraphs take: one for each character and one for each end. -/
def stepCount (paragraphs : List Paragraph) : Nat :=
  (paragraphs.map fun p => p.text.length + 1).sum

def extent (d : Document) : Nat := stepCount d.paragraphs

/-- Where the paragraph with an index starts: behind the steps of those before it. -/
def startOf (d : Document) (index : Nat) : Nat := stepCount (d.paragraphs.take index)

def Covers (d : Document) (index position : Nat) : Prop :=
  ∃ p, d.paragraphs[index]? = some p ∧
    d.startOf index ≤ position ∧ position ≤ d.startOf index + p.text.length

def places (d : Document) : List ParagraphInfo :=
  d.paragraphs.mapIdx fun index p =>
    { paragraph := p.id, style := p.style, start := d.startOf index }

/-! ## Starts -/

section Starts

variable {d : Document} {index other position : Nat} {p : Paragraph}

theorem startOf_succ (h : d.paragraphs[index]? = some p) :
    d.startOf (index + 1) = d.startOf index + p.text.length + 1 := by
  simp [startOf, stepCount, List.take_add_one, h, Nat.add_assoc]

theorem startOf_le_succ (d : Document) (index : Nat) : d.startOf index ≤ d.startOf (index + 1) := by
  simp [startOf, stepCount, List.take_add_one]

theorem startOf_mono (d : Document) : Monotone d.startOf :=
  monotone_nat_of_le_succ d.startOf_le_succ

theorem startOf_length (d : Document) : d.startOf d.paragraphs.length = d.extent := by
  rw [startOf, List.take_length, extent]

theorem covers_iff : d.Covers index position ↔
    d.startOf index ≤ position ∧ position < d.startOf (index + 1) := by
  unfold Covers
  cases hp : d.paragraphs[index]? with
  | none =>
      have hend : d.startOf (index + 1) = d.startOf index := by
        simp [startOf, List.take_add_one, hp]
      simp only [reduceCtorEq, false_and, exists_false, false_iff, hend]
      omega
  | some p =>
      simp only [Option.some.injEq, exists_eq_left', startOf_succ hp]
      omega

theorem Covers.unique (h : d.Covers index position) (hother : d.Covers other position) :
    index = other := by
  rw [covers_iff] at h hother
  rcases Nat.lt_trichotomy index other with hlt | heq | hgt
  · have hbehind : d.startOf (index + 1) ≤ d.startOf other := d.startOf_mono hlt
    omega
  · exact heq
  · have hbehind : d.startOf (other + 1) ≤ d.startOf index := d.startOf_mono hgt
    omega

/-- A position before the start of some paragraph belongs to one before that. -/
theorem exists_covers_of_lt_startOf (h : position < d.startOf index) :
    ∃ earlier, d.Covers earlier position := by
  induction index with
  | zero => exact (Nat.not_lt_zero position h).elim
  | succ index ih =>
      rcases Nat.lt_or_ge position (d.startOf index) with hbefore | hstarted
      · exact ih hbefore
      · exact ⟨index, covers_iff.2 ⟨hstarted, h⟩⟩

theorem exists_covers (h : position < d.extent) : ∃ index, d.Covers index position :=
  exists_covers_of_lt_startOf (d.startOf_length ▸ h)

theorem Covers.lt_extent (h : d.Covers index position) : position < d.extent := by
  obtain ⟨p, hp, -⟩ := id h
  have hlength : index + 1 ≤ d.paragraphs.length := (List.getElem?_eq_some_iff.1 hp).1
  have hend : d.startOf (index + 1) ≤ d.extent := d.startOf_length ▸ d.startOf_mono hlength
  exact Nat.lt_of_lt_of_le (covers_iff.1 h).2 hend

end Starts

/-! ## Spans -/

section Spans

variable {d : Document} {index position : Nat} {info : ParagraphInfo}

theorem getElem?_spansFrom (start : Nat) (paragraphs : List Paragraph) (index : Nat) :
    (spansFrom start paragraphs)[index]? = paragraphs[index]?.map fun p =>
      { start := start + stepCount (paragraphs.take index)
        stop := start + stepCount (paragraphs.take index) + p.stepLength
        paragraph := p } := by
  induction paragraphs generalizing start index with
  | nil => rfl
  | cons p rest ih =>
      cases index with
      | zero => rfl
      | succ index =>
          have hstart : start + p.stepLength + 1 + stepCount (rest.take index) =
              start + stepCount ((p :: rest).take (index + 1)) := by
            simp only [stepCount, List.take_succ_cons, List.map_cons, List.sum_cons,
              Paragraph.stepLength]
            omega
          rw [spansFrom, List.getElem?_cons_succ, List.getElem?_cons_succ, ih, hstart]

theorem getElem?_spans (d : Document) (index : Nat) :
    d.spans[index]? = d.paragraphs[index]?.map fun p =>
      { start := d.startOf index, stop := d.startOf index + p.text.length, paragraph := p } := by
  unfold spans
  rw [getElem?_spansFrom]
  simp only [Nat.zero_add]
  rfl

theorem map_info_spans (d : Document) : d.spans.map (·.info) = d.places := by
  refine List.ext_getElem? fun index => ?_
  rw [List.getElem?_map, getElem?_spans, places, List.getElem?_mapIdx, Option.map_map]
  rfl

theorem place_iff : d.places[index]? = some info ↔
    ∃ span, d.spans[index]? = some span ∧ span.info = info := by
  rw [← map_info_spans, List.getElem?_map, Option.map_eq_some_iff]

theorem covers_iff_span : d.Covers index position ↔
    ∃ span, d.spans[index]? = some span ∧ span.start ≤ position ∧ position ≤ span.stop := by
  rw [getElem?_spans]
  simp only [Option.map_eq_some_iff, exists_exists_and_eq_and]
  rfl

theorem covers_of_place (h : d.places[index]? = some info) : d.Covers index info.start := by
  obtain ⟨span, hspan, rfl⟩ := place_iff.1 h
  exact covers_iff_span.2
    ⟨span, hspan, Nat.le_refl _, start_le_stop (List.mem_of_getElem? hspan)⟩

/-- What is at a position is the paragraph to which the position belongs. -/
theorem Covers.paragraphAt? (h : d.Covers index position) :
    ∃ info, d.places[index]? = some info ∧ d.paragraphAt? position = some info := by
  obtain ⟨span, hspan, hstart, hstop⟩ := covers_iff_span.1 h
  exact ⟨span.info, place_iff.2 ⟨span, hspan, rfl⟩,
    paragraphAt?_of_mem_spans (List.mem_of_getElem? hspan) hstart hstop⟩

/-- A paragraph meets a range if one of its positions lies in it. -/
theorem mem_paragraphsInRange_iff {low high : StepPosition} (h : low ≤ high) :
    info ∈ d.paragraphsInRange (low, high) ↔ ∃ index, d.places[index]? = some info ∧
      ∃ position, low ≤ position ∧ position ≤ high ∧ d.Covers index position := by
  unfold paragraphsInRange
  constructor
  · intro hinfo
    obtain ⟨span, hspan, rfl⟩ := List.mem_map.1 hinfo
    obtain ⟨hmem, hmeets⟩ := List.mem_filter.1 hspan
    obtain ⟨index, hindex⟩ := List.mem_iff_getElem?.1 hmem
    obtain ⟨position, hstart, hstop, hlow, hhigh⟩ :=
      (Span.meets_iff (start_le_stop hmem) h).1 hmeets
    exact ⟨index, place_iff.2 ⟨span, hindex, rfl⟩, position, hlow, hhigh,
      covers_iff_span.2 ⟨span, hindex, hstart, hstop⟩⟩
  · rintro ⟨index, hplace, position, hlow, hhigh, hcovers⟩
    obtain ⟨span, hspan, rfl⟩ := place_iff.1 hplace
    obtain ⟨covering, hcovering, hstart, hstop⟩ := covers_iff_span.1 hcovers
    obtain rfl := Option.some.inj (hspan.symm.trans hcovering)
    have hmem : span ∈ d.spans := List.mem_of_getElem? hspan
    have hmeets : span.meets (low, high) = true :=
      (Span.meets_iff (start_le_stop hmem) h).2 ⟨position, hstart, hstop, hlow, hhigh⟩
    exact List.mem_map.2 ⟨span, List.mem_filter.2 ⟨hmem, hmeets⟩, rfl⟩

theorem paragraphAt?_eq_none (h : d.extent ≤ position) : d.paragraphAt? position = none := by
  unfold Document.paragraphAt?
  rw [List.head?_eq_none_iff, List.eq_nil_iff_forall_not_mem]
  intro info hinfo
  obtain ⟨index, -, met, hlow, -, hcovers⟩ :=
    (mem_paragraphsInRange_iff (Nat.le_refl position)).1 hinfo
  exact absurd hcovers.lt_extent (Nat.not_lt_of_le (Nat.le_trans h hlow))

/-- Two spans have a position in between: the first one's end. -/
theorem pairwise_spans (d : Document) : d.spans.Pairwise fun a b => a.stop < b.start := by
  unfold spans
  generalize 0 = start
  induction d.paragraphs generalizing start with
  | nil => exact List.Pairwise.nil
  | cons p rest ih =>
      refine List.Pairwise.cons (fun span hspan => ?_) (ih _)
      exact Nat.lt_of_succ_le (start_le_of_mem_spansFrom hspan)

/-- A range of one position meets what is at that position. -/
theorem paragraphsInRange_self (d : Document) (position : StepPosition) :
    d.paragraphsInRange (position, position) = (d.paragraphAt? position).toList := by
  unfold Document.paragraphAt?
  have hpairwise := d.pairwise_spans.filter fun s => s.meets (position, position)
  unfold paragraphsInRange
  have hmeets : ∀ s ∈ d.spans.filter (·.meets (position, position)),
      s.start ≤ position ∧ position ≤ s.stop := by
    intro s hs
    simpa [Span.meets] using (List.mem_filter.1 hs).2
  generalize d.spans.filter (·.meets (position, position)) = met at hpairwise hmeets
  rcases met with _ | ⟨first, _ | ⟨second, others⟩⟩
  · rfl
  · rfl
  · have hbeyond : first.stop < second.start :=
      (List.pairwise_cons.1 hpairwise).1 second List.mem_cons_self
    have hfirst : position ≤ first.stop := (hmeets first List.mem_cons_self).2
    have hsecond : second.start ≤ position :=
      (hmeets second (List.mem_cons_of_mem first List.mem_cons_self)).1
    exact absurd (Nat.lt_of_lt_of_le hbeyond hsecond) (Nat.not_lt_of_le hfirst)

theorem paragraph?_eq_some_iff (h : d.Distinct) {p : ParagraphRef} :
    d.paragraph? p = some info ↔ info ∈ d.places ∧ info.paragraph = p := by
  constructor
  · intro hinfo
    refine ⟨?_, paragraph_of_paragraph? hinfo⟩
    unfold paragraph? at hinfo
    obtain ⟨span, hspan, rfl⟩ := Option.map_eq_some_iff.1 hinfo
    rw [← map_info_spans]
    exact List.mem_map_of_mem (List.mem_of_find?_eq_some hspan)
  · rintro ⟨hmem, rfl⟩
    obtain ⟨index, hindex⟩ := List.mem_iff_getElem?.1 hmem
    have hmet : info ∈ d.paragraphsInRange (info.start, info.start) :=
      (mem_paragraphsInRange_iff (Nat.le_refl info.start)).2
        ⟨index, hindex, info.start, Nat.le_refl _, Nat.le_refl _, covers_of_place hindex⟩
    exact paragraph?_of_mem_range h hmet

end Spans

/-- The positions of a document are shared out among its paragraphs, and questions about places are
answered accordingly. -/
structure Partitioned (d : Document) : Prop where
  distinct : d.Distinct
  inside : ∀ position < d.extent, ∃! index, d.Covers index position
  outside : ∀ position, d.extent ≤ position →
    (∀ index, ¬ d.Covers index position) ∧ d.paragraphAt? position = none
  found : ∀ index position, d.Covers index position →
    ∃ info, d.places[index]? = some info ∧ d.paragraphAt? position = some info
  numbered : ∀ p info, d.paragraph? p = some info ↔ info ∈ d.places ∧ info.paragraph = p
  returned : ∀ info ∈ d.places, d.paragraphAt? info.start = some info

theorem Distinct.partitioned {d : Document} (h : d.Distinct) : d.Partitioned where
  distinct := h
  inside position hposition := by
    obtain ⟨index, hcovers⟩ := exists_covers hposition
    exact ⟨index, hcovers, fun other hother => Covers.unique hother hcovers⟩
  outside position hposition :=
    ⟨fun _ hcovers => absurd hcovers.lt_extent (Nat.not_lt_of_le hposition),
      paragraphAt?_eq_none hposition⟩
  found _ _ hcovers := hcovers.paragraphAt?
  numbered _ _ := paragraph?_eq_some_iff h
  returned info hinfo := by
    obtain ⟨index, hindex⟩ := List.mem_iff_getElem?.1 hinfo
    obtain ⟨found, hfound, hat⟩ := (covers_of_place hindex).paragraphAt?
    obtain rfl := Option.some.inj (hindex.symm.trans hfound)
    exact hat

end Document

namespace Replica

/-- What a member's selection meets: in document order, just the paragraphs with a position between
the two ends of the cursor, whichever end comes first. -/
structure SelectionMeets (r : Replica) (member : MemberId) (c : Cursor) : Prop where
  ordered : (r.paragraphsInSelection member).Sublist r.document.places
  mem_iff : ∀ info, info ∈ r.paragraphsInSelection member ↔
    ∃ index, r.document.places[index]? = some info ∧ ∃ position,
      min c.anchor c.position ≤ position ∧ position ≤ max c.anchor c.position ∧
        r.document.Covers index position
  swapped : paragraphsInSelection
      { r with cursors :=
          r.cursors.insert member { c with position := c.anchor, anchor := c.position } } member =
    r.paragraphsInSelection member
  collapsed : c.anchor = c.position →
    r.paragraphsInSelection member = (r.document.paragraphAt? c.position).toList
  intersects : ∀ p, r.selectionIntersects member p = true ↔
    ∃ info ∈ r.paragraphsInSelection member, info.paragraph = p

theorem paragraphsInSelection_of_cursor {r : Replica} {member : MemberId} {c : Cursor}
    (h : r.cursors.get? member = some c) :
    r.paragraphsInSelection member =
      r.document.paragraphsInRange (min c.anchor c.position, max c.anchor c.position) := by
  unfold paragraphsInSelection
  rw [h]
  rfl

theorem selectionMeets {r : Replica} {member : MemberId} {c : Cursor}
    (h : r.cursors.get? member = some c) : r.SelectionMeets member c where
  ordered := by
    rw [paragraphsInSelection_of_cursor h, ← Document.map_info_spans]
    exact List.filter_sublist.map _
  mem_iff info := by
    rw [paragraphsInSelection_of_cursor h]
    exact Document.mem_paragraphsInRange_iff min_le_max
  swapped := by
    have hswapped : (r.cursors.insert member
        { c with position := c.anchor, anchor := c.position }).get? member =
          some { c with position := c.anchor, anchor := c.position } := by
      rw [Dict.get?_insert, if_pos rfl]
    rw [paragraphsInSelection_of_cursor h, paragraphsInSelection_of_cursor hswapped]
    simp only [Nat.min_comm, Nat.max_comm]
  collapsed heq := by
    rw [paragraphsInSelection_of_cursor h, heq, Nat.min_self, Nat.max_self,
      Document.paragraphsInRange_self]
  intersects p := by simp [selectionIntersects]

/-- In a document that was built, or read from a text, the paragraphs share out the positions, and
every selection meets the paragraphs that have some of its positions. All batches of operations
leave it so: they change neither numbers nor texts of paragraphs, nor their order. -/
theorem positions_shared_out {r : Replica}
    (h : (∃ steps, r.document = .build steps) ∨ ∃ text, r.document = .ofText text)
    (batches : List Batch) :
    let r' := batches.foldl (fun r batch => (r.applyBatch batch).1) r
    r'.document.Partitioned ∧
      r'.document.paragraphs.map (fun p => (p.id, p.text)) =
        r.document.paragraphs.map (fun p => (p.id, p.text)) ∧
      ∀ member c, r'.cursors.get? member = some c → r'.SelectionMeets member c := by
  intro r'
  have hdistinct : r.document.Distinct := by
    rcases h with ⟨steps, hbuilt⟩ | ⟨text, hread⟩
    · rw [hbuilt]
      exact (Document.numbered_build steps).distinct
    · rw [hread]
      exact (Document.numbered_ofText text).distinct
  exact ⟨(distinct_applied hdistinct batches).partitioned,
    map_paragraphs_applied (fun _ _ => rfl) r batches, fun _ _ hc => selectionMeets hc⟩

def withEmptyParagraph : Replica := { document := .ofText "[Title] Käse\n\n[Body] to go" }

/-- A cursor that selects backwards, from the empty paragraph to the end of the first one, while
the style of that one is removed. -/
def selectingBackwards : List Batch :=
  [[.addMember ⟨"m"⟩ {}, .addCursor ⟨"m"⟩], [.moveCursor ⟨"m"⟩ 4 5 .range],
    [.removeStyle ⟨"n"⟩ ⟨"Title"⟩ .paragraph]]

/-- The empty paragraph has one position of its own. The selection meets it, and the end of the
paragraph before, and not the paragraph behind it. -/
theorem empty_paragraph_has_its_position :
    let r := selectingBackwards.foldl (fun r batch => (r.applyBatch batch).1) withEmptyParagraph
    (∃! index, r.document.Covers index 5) ∧ r.document.paragraphAt? 12 = none ∧
      (⟨2, .default, 5⟩ ∈ r.paragraphsInSelection ⟨"m"⟩ ∧
        r.selectionIntersects ⟨"m"⟩ 1 = true ∧ r.selectionIntersects ⟨"m"⟩ 3 = false) := by
  intro r
  obtain ⟨hpartitioned, -, hselects⟩ :=
    positions_shared_out (r := withEmptyParagraph) (.inr ⟨_, rfl⟩) selectingBackwards
  have hcursor : r.cursors.get? ⟨"m"⟩ =
      some { member := ⟨"m"⟩, position := 4, anchor := 5, selectionKind := .range } := by
    decide +kernel
  have hplace : r.document.places[1]? = some ⟨2, .default, 5⟩ := by decide +kernel
  have hselected := hselects ⟨"m"⟩ _ hcursor
  have hempty : r.document.Covers 1 5 := Document.covers_of_place hplace
  refine ⟨hpartitioned.inside 5 (by decide +kernel), (hpartitioned.outside 12 ?_).2, ?_, ?_, ?_⟩
  · decide +kernel
  · exact (hselected.mem_iff _).2 ⟨1, hplace, 5, by decide, by decide, hempty⟩
  · exact (hselected.intersects 1).2 ⟨⟨1, .default, 0⟩, by decide +kernel, rfl⟩
  · decide +kernel

end Replica

end Coedit
