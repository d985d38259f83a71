import Coedit.Document.Builder
import Coedit.Engine.Replica
import Coedit.Proofs.Engine.Chains
import Mathlib.Data.List.Find
import Mathlib.Data.List.Forall2

/-!
# Removing a style

A style is in use if it is on the chain of some paragraph. Without a style that is not in use, all
chains of paragraphs are what they were, and so is all that is answered from them. A style in use
may be removed too: its paragraphs fall back to the default style and are announced, one by one.
-/

namespace Coedit

namespace Document

variable {d d' : Document} {style id : StyleId}

theorem isStyleUsed_eq_false_iff : d.isStyleUsed style = false ↔
    ∀ p ∈ d.paragraphs, style ∉ d.parentChain p.style := by
  simp [isStyleUsed]

/-- A style is on its own chain. -/
theorem mem_parentChain_self (hdefault : id.isDefault = false) (h : d.styles.contains id = true) :
    id ∈ d.parentChain id := by
  obtain ⟨s, hs⟩ := Option.isSome_iff_exists.1 h
  have hnode : node? d.styles id = some s := by simp [node?, hdefault, hs]
  rw [parentChain_eq, hnode]
  exact List.mem_cons_self

theorem contains_of_mem_parentChain (h : style ∈ d.parentChain id) :
    d.styles.contains style = true := by
  obtain ⟨s, hnode⟩ := node?_of_mem_chainFrom h
  simp [Dict.contains, (get?_of_node? hnode).2]

/-- The other styles on a chain are still there. -/
theorem get?_erase_of_mem (hstyles : d'.styles = d.styles.erase style)
    (h : style ∉ d.parentChain id) {other : StyleId} (hother : other ∈ d.parentChain id) :
    d'.styles.get? other = d.styles.get? other := by
  have hne : style ≠ other := by
    rintro rfl
    exact h hother
  rw [hstyles, Dict.get?_erase, if_neg hne]

theorem commonStyleName_erase (hstyles : d'.styles = d.styles.erase style)
    (h : style ∉ d.parentChain id) : d'.commonStyleName id = d.commonStyleName id := by
  unfold commonStyleName
  rw [parentChain_erase hstyles h]
  refine List.find?_congr fun other hother => ?_
  unfold isCommon
  rw [get?_erase_of_mem hstyles h hother]

theorem inheritedAttributes_erase (hstyles : d'.styles = d.styles.erase style)
    (hdefault : d'.defaultStyle = d.defaultStyle) (h : style ∉ d.parentChain id)
    (includeDefault : Bool) :
    d'.inheritedAttributes id includeDefault = d.inheritedAttributes id includeDefault := by
  have hchain := parentChain_erase hstyles h
  have hdefinitions : d'.chainDefinitions id = d.chainDefinitions id := by
    unfold chainDefinitions
    rw [hchain]
    refine List.filterMap_congr fun other hother => ?_
    rw [get?_erase_of_mem hstyles h (List.mem_reverse.1 hother)]
  unfold inheritedAttributes
  rw [hchain, hdefinitions, hdefault]

end Document

/-- A paragraph before and after a style was removed: it is the same, but for the style if it had
that one. -/
structure Paragraph.Detached (style : StyleId) (p p' : Paragraph) : Prop where
  id : p'.id = p.id
  text : p'.text = p.text
  attached : p.style = style → p'.style = .default
  other : p.style ≠ style → p'.style = p.style

namespace Replica

variable {r : Replica} {member : MemberId} {style : StyleId} {family : StyleFamily}

theorem detached_detachStyle (style : StyleId) (p : Paragraph) :
    p.Detached style (detachStyle style p) := by
  by_cases hstyle : p.style = style <;> constructor <;> simp [detachStyle, hstyle]

theorem style_detachStyle_ne (h : style.isDefault = false) (p : Paragraph) :
    (detachStyle style p).style ≠ style := by
  by_cases hstyle : p.style = style
  · rw [(detached_detachStyle style p).attached hstyle]
    rintro rfl
    cases h
  · rwa [(detached_detachStyle style p).other hstyle]

def withoutStyle (style : StyleId) (d : Document) : Document :=
  { d with
    styles := d.styles.erase style
    paragraphs := d.paragraphs.map (detachStyle style) }

theorem apply_removeStyle_of_contains (h : r.document.styles.contains style = true) :
    r.apply (.removeStyle member style family) =
      (r.withDocument (withoutStyle style r.document),
        ((r.document.paragraphs.filter (·.style == style)).map fun p =>
          .paragraphChanged p.id member) ++ [.styleDeleted style]) := by
  simp [apply, h, withoutStyle]

theorem apply_removeStyle_of_absent (h : r.document.styles.contains style = false) :
    r.apply (.removeStyle member style family) = (r, []) := by
  simp [apply, h]

/-- A paragraph that has the style of its own has it on its chain, unless that is the default style
or missing; detaching that is no change. -/
theorem paragraphs_withoutStyle_unused {d : Document} (hcontains : d.styles.contains style = true)
    (hunused : d.isStyleUsed style = false) : (withoutStyle style d).paragraphs = d.paragraphs := by
  refine (List.map_congr_left fun p hp => ?_).trans (List.map_id _)
  unfold detachStyle
  split
  · rename_i hstyle
    have hnot := Document.isStyleUsed_eq_false_iff.1 hunused p hp
    rw [hstyle] at hnot
    cases hdefault : style.isDefault with
    | false => exact (hnot (Document.mem_parentChain_self hdefault hcontains)).elim
    | true =>
        have hsame : StyleId.default = p.style := by
          rw [hstyle]
          exact congrArg StyleId.mk (beq_iff_eq.1 hdefault).symm
        rw [hsame]
        rfl
  · rfl

/-- The paragraphs whose style is another one afterwards, before and after. -/
def restyledPairs (d d' : Document) : List (Paragraph × Paragraph) :=
  (d.paragraphs.zip d'.paragraphs).filter fun p => p.1.style ≠ p.2.style

theorem restyledPairs_withoutStyle (h : style.isDefault = false) (d : Document) :
    restyledPairs d (withoutStyle style d) = (d.paragraphs.filter (·.style == style)).map fun p =>
      (p, detachStyle style p) := by
  have hpairs : d.paragraphs.zip (d.paragraphs.map (detachStyle style)) =
      d.paragraphs.map fun p => (p, detachStyle style p) := by
    simpa using List.zip_map' (f := id) (g := detachStyle style) (l := d.paragraphs)
  unfold restyledPairs withoutStyle
  rw [hpairs, List.filter_map]
  congr 1
  refine List.filter_congr fun p _ => ?_
  by_cases hstyle : p.style = style
  · have hne := style_detachStyle_ne h p
    simp [hstyle, Ne.symm hne]
  · simp [hstyle, (detached_detachStyle style p).other hstyle]

theorem forall_detached_withoutStyle (style : StyleId) (d : Document) :
    List.Forall₂ (Paragraph.Detached style) d.paragraphs (withoutStyle style d).paragraphs := by
  unfold withoutStyle
  rw [List.forall₂_map_right_iff, List.forall₂_same]
  exact fun p _ => detached_detachStyle style p

theorem isStyleUsed_withoutStyle (style : StyleId) (d : Document) :
    (withoutStyle style d).isStyleUsed style = false := by
  refine Document.isStyleUsed_eq_false_iff.2 fun p _ hmem => ?_
  have hcontains := Document.contains_of_mem_parentChain hmem
  simp [withoutStyle, Dict.contains_erase] at hcontains

/-- A style that is not in use can be removed without a trace in the paragraphs: each keeps its
style, the common style that this leads to, and all that it inherits. If a style of the document
is removed, in use or not, no paragraph has it any more, on its chain or of its own; just those that
had it of their own have the default style now, and each is announced, in document order, before
the deletion is. -/
theorem removal_guarded_by_use (r : Replica) (member : MemberId) (style : StyleId)
    (family : StyleFamily) :
    let d := r.document
    let removed := r.apply (.removeStyle member style family)
    let d' := removed.1.document
    (d.isStyleUsed style = false →
      d'.paragraphs = d.paragraphs ∧ ∀ p ∈ d.paragraphs,
        d'.commonStyleName p.style = d.commonStyleName p.style ∧
        ∀ includeDefault, d'.inheritedAttributes p.style includeDefault =
          d.inheritedAttributes p.style includeDefault) ∧
    (d.styles.contains style = true → style.isDefault = false →
      (∀ p ∈ d'.paragraphs, p.style ≠ style) ∧ d'.isStyleUsed style = false ∧
      List.Forall₂ (Paragraph.Detached style) d.paragraphs d'.paragraphs ∧
      removed.2 = ((restyledPairs d d').map fun p => .paragraphChanged p.1.id member) ++
        [.styleDeleted style]) := by
  intro d removed d'
  cases hcontains : d.styles.contains style with
  | false =>
      have hsame : removed = (r, []) := apply_removeStyle_of_absent hcontains
      have hdocument : d' = d := congrArg (·.1.document) hsame
      rw [hdocument]
      exact ⟨fun _ => ⟨rfl, fun _ _ => ⟨rfl, fun _ => rfl⟩⟩, nofun⟩
  | true =>
      have hremoved : removed = _ := apply_removeStyle_of_contains hcontains
      have hdocument : d' = withoutStyle style d := congrArg (·.1.document) hremoved
      rw [hdocument]
      constructor
      · intro hunused
        refine ⟨paragraphs_withoutStyle_unused hcontains hunused, fun p hp => ?_⟩
        have hnot := Document.isStyleUsed_eq_false_iff.1 hunused p hp
        exact ⟨Document.commonStyleName_erase rfl hnot,
          Document.inheritedAttributes_erase rfl rfl hnot⟩
      · intro _ hdefault
        refine ⟨fun p hp => ?_, isStyleUsed_withoutStyle style d,
          forall_detached_withoutStyle style d, ?_⟩
        · obtain ⟨before, -, rfl⟩ := List.mem_map.1 hp
          exact style_detachStyle_ne hdefault before
        · rw [restyledPairs_withoutStyle hdefault, List.map_map]
          exact congrArg (·.2) hremoved

/-- Two styles in a circle, of which a paragraph has one, and a style that only hangs from it. -/
def withIdleStyle : Replica :=
  { document := .build [.commonStyle ⟨"A"⟩ "A", .automaticStyle ⟨"B"⟩ ⟨"A"⟩, .parent ⟨"A"⟩ ⟨"B"⟩,
      .automaticStyle ⟨"C"⟩ ⟨"A"⟩, .paragraph "one" ⟨"B"⟩, .paragraph "two" ⟨"A"⟩,
      .paragraph "three" ⟨"B"⟩] }

/-- The idle style goes unnoticed. The other one is in use; both paragraphs that have it are
announced. -/
theorem idle_style_unnoticed :
    (withIdleStyle.apply (.removeStyle ⟨"m"⟩ ⟨"C"⟩ .paragraph)).1.document.commonStyleName ⟨"B"⟩ =
        some ⟨"A"⟩ ∧
      (withIdleStyle.apply (.removeStyle ⟨"m"⟩ ⟨"B"⟩ .paragraph)).2 =
        [.paragraphChanged 1 ⟨"m"⟩, .paragraphChanged 3 ⟨"m"⟩, .styleDeleted ⟨"B"⟩] := by
  constructor
  · obtain ⟨-, hkept⟩ := (removal_guarded_by_use withIdleStyle ⟨"m"⟩ ⟨"C"⟩ .paragraph).1
      (by decide +kernel)
    rw [(hkept ⟨1, "one", ⟨"B"⟩⟩ (by decide +kernel)).1]
    decide +kernel
  · obtain ⟨-, -, -, hevents⟩ := (removal_guarded_by_use withIdleStyle ⟨"m"⟩ ⟨"B"⟩ .paragraph).2
      (by decide +kernel) (by decide +kernel)
    rw [hevents]
    decide +kernel

end Replica

end Coedit
