import Coedit.Proofs.Engine.Paragraphs

/-!
# Where paragraphs lie

Spans follow each other without overlap, so a position lies in one paragraph at most. Which one
depends on the numbers and the lengths of the paragraphs alone, and no operation changes these.
-/

namespace Coedit

/-- A span meets a range just if they have a position in common. -/
theorem Span.meets_iff {s : Span} {low high : StepPosition} (h : s.start ≤ s.stop)
    (h' : low ≤ high) :
    s.meets (low, high) = true ↔ ∃ x, s.start ≤ x ∧ x ≤ s.stop ∧ low ≤ x ∧ x ≤ high := by
  simp only [Span.meets, Bool.and_eq_true, decide_eq_true_eq]
  constructor
  · rintro ⟨hstart, hstop⟩
    exact ⟨max low s.start, Nat.le_max_right _ _, Nat.max_le.2 ⟨hstop, h⟩, Nat.le_max_left _ _,
      Nat.max_le.2 ⟨h', hstart⟩⟩
  · rintro ⟨x, hstart, hstop, hlow, hhigh⟩
    exact ⟨Nat.le_trans hstart hhigh, Nat.le_trans hlow hstop⟩

namespace Document

def layout (d : Document) : List (ParagraphRef × Nat) :=
  d.paragraphs.map fun p => (p.id, p.stepLength)

def locate (position : StepPosition) : StepPosition → List (ParagraphRef × Nat) →
    Option ParagraphRef
  | _, [] => none
  | start, (id, length) :: rest =>
    if start ≤ position ∧ position ≤ start + length then some id
    else locate position (start + length + 1) rest

theorem paragraphAt?_eq_locate (d : Document) (position : StepPosition) :
    (d.paragraphAt? position).map (·.paragraph) = locate position 0 d.layout := by
  unfold paragraphAt? paragraphsInRange spans layout
  suffices h : ∀ start, ((((spansFrom start d.paragraphs).filter
      (·.meets (position, position))).map (·.info)).head?).map (·.paragraph) =
        locate position start (d.paragraphs.map fun p => (p.id, p.stepLength)) from h 0
  induction d.paragraphs with
  | nil => exact fun _ => rfl
  | cons p rest ih =>
      intro start
      by_cases hin : start ≤ position ∧ position ≤ start + p.stepLength
      · have hmeets : Span.meets { start, stop := start + p.stepLength, paragraph := p }
            (position, position) = true := by simp [Span.meets, hin]
        rw [spansFrom, List.filter_cons, if_pos hmeets]
        simp only [List.map_cons, locate, if_pos hin]
        rfl
      · have hmeets : ¬ Span.meets { start, stop := start + p.stepLength, paragraph := p }
            (position, position) = true := by simpa [Span.meets] using hin
        rw [spansFrom, List.filter_cons, if_neg hmeets]
        simp only [List.map_cons, locate, if_neg hin]
        exact ih (start + p.stepLength + 1)

theorem start_le_of_mem_spansFrom {start : StepPosition} {paragraphs : List Paragraph}
    {span : Span} (h : span ∈ spansFrom start paragraphs) : start ≤ span.start := by
  induction paragraphs generalizing start with
  | nil => cases h
  | cons p rest ih =>
      rcases List.mem_cons.1 h with rfl | hrest
      · exact Nat.le_refl _
      · have hbehind : start ≤ start + p.stepLength + 1 := Nat.le_add_right start (p.stepLength + 1)
        exact Nat.le_trans hbehind (ih hrest)

theorem start_le_stop {d : Document} {span : Span} (h : span ∈ d.spans) :
    span.start ≤ span.stop := by
  unfold spans at h
  generalize 0 = start, d.paragraphs = paragraphs at h
  induction paragraphs generalizing start with
  | nil => cases h
  | cons p rest ih =>
      rcases List.mem_cons.1 h with rfl | hrest
      · exact Nat.le_add_right _ _
      · exact ih _ hrest

/-- A position inside a span is in no other. -/
theorem paragraphAt?_of_mem_spans {d : Document} {position : StepPosition} {span : Span}
    (hmem : span ∈ d.spans) (hstart : span.start ≤ position) (hstop : position ≤ span.stop) :
    d.paragraphAt? position = some span.info := by
  have hmeets : span.meets (position, position) = true := by simp [Span.meets, hstart, hstop]
  unfold spans at hmem
  unfold paragraphAt? paragraphsInRange spans
  rw [List.head?_map]
  suffices h : ∀ start, span ∈ spansFrom start d.paragraphs →
      ((spansFrom start d.paragraphs).filter (·.meets (position, position))).head? = some span by
    rw [h 0 hmem]
    rfl
  clear hmem
  induction d.paragraphs with
  | nil => exact fun _ hmem => (List.not_mem_nil hmem).elim
  | cons p rest ih =>
      intro start hmem
      rcases List.mem_cons.1 hmem with rfl | hrest
      · rw [spansFrom, List.filter_cons, if_pos hmeets, List.head?_cons]
      · have hbeyond : start + p.stepLength < position :=
          Nat.lt_of_lt_of_le (start_le_of_mem_spansFrom hrest) hstart
        have hbehind : ¬ Span.meets { start, stop := start + p.stepLength, paragraph := p }
            (position, position) = true := by
          simp only [Span.meets, Bool.and_eq_true, decide_eq_true_eq, not_and]
          exact fun _ => Nat.not_le_of_lt hbeyond
        rw [spansFrom, List.filter_cons, if_neg hbehind]
        exact ih _ hrest

end Document

namespace Replica

/-- No operation moves a paragraph. -/
theorem layout_apply (r : Replica) (op : Operation) :
    (r.apply op).1.document.layout = r.document.layout :=
  map_paragraphs_apply (fun _ _ => rfl) r op

end Replica

end Coedit
