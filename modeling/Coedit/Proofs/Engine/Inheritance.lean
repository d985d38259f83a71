import Coedit.Document.Builder
import Coedit.Proofs.Engine.Chains

/-!
# What styles inherit

Inherited attributes are merged from the far end of the chain to the near one, group by group. Key
by key this is a search from the near end: the nearest style that sets something decides, and the
default style has the last word. A lookup passes through a merge if what is laid on top answers
first; attributes, properties and the presence of a group are such lookups.
-/

namespace Coedit

namespace StyleDefinition

def property? (d : StyleDefinition) (group key : String) : Option String :=
  (d.properties.get? group).bind (·.get? key)

/-- Whether there is a property group, as something that may be found. -/
def group? (d : StyleDefinition) (group : String) : Option Unit :=
  (d.properties.get? group).map fun _ => ()

theorem contains_eq_group? (d : StyleDefinition) (group : String) :
    d.properties.contains group = (d.group? group).isSome := by
  simp [Dict.contains, group?]

/-- Groups and what they hold make up the properties. -/
theorem properties_ext {d e : StyleDefinition} (hgroup : ∀ group, d.group? group = e.group? group)
    (hproperty : ∀ group key, d.property? group key = e.property? group key) :
    d.properties = e.properties := by
  refine Dict.ext_get? fun group => ?_
  have hg := hgroup group
  have hp := hproperty group
  unfold group? at hg
  unfold property? at hp
  cases hd : d.properties.get? group with
  | none =>
      cases he : e.properties.get? group with
      | none => rfl
      | some values => simp [hd, he] at hg
  | some values =>
      cases he : e.properties.get? group with
      | none => simp [hd, he] at hg
      | some values' =>
          simp only [hd, he, Option.bind_some] at hp
          rw [Dict.ext_get? hp]

/-! ## Lookups in a merge -/

/-- A group of both holds what is in either, `upper` winning. -/
theorem get?_properties_overlay (d upper : StyleDefinition) (group : String) :
    (d.overlay upper).properties.get? group =
      ((upper.properties.get? group).map fun values =>
        ((d.properties.get? group).getD ∅).extend values).or (d.properties.get? group) := by
  have hset := Dict.get?_foldl_insert
    (fun (old : Option (Dict String String)) (values : Dict String String) =>
      (old.getD ∅).extend values) upper.properties.sorted d.properties group
  unfold overlay extendGroup
  simp only [hset]
  unfold Dict.get?
  rw [Option.map_map]
  rfl

theorem property?_overlay (d upper : StyleDefinition) (group key : String) :
    (d.overlay upper).property? group key =
      (upper.property? group key).or (d.property? group key) := by
  unfold property?
  rw [get?_properties_overlay]
  cases upper.properties.get? group with
  | none => rfl
  | some values =>
      simp only [Option.map_some, Option.some_or, Option.bind_some, Dict.get?_extend]
      cases d.properties.get? group <;> rfl

theorem group?_overlay (d upper : StyleDefinition) (group : String) :
    (d.overlay upper).group? group = (upper.group? group).or (d.group? group) := by
  unfold group?
  rw [get?_properties_overlay]
  cases upper.properties.get? group <;> rfl

def Overlays {α : Type} (f : StyleDefinition → Option α) : Prop :=
  ∀ d upper, f (overlay d upper) = (f upper).or (f d)

theorem overlays_attribute (key : String) : Overlays (·.attributes.get? key) := fun d upper =>
  Dict.get?_extend d.attributes upper.attributes key

theorem overlays_property (group key : String) : Overlays (·.property? group key) :=
  fun d upper => property?_overlay d upper group key

theorem overlays_group (group : String) : Overlays (·.group? group) :=
  fun d upper => group?_overlay d upper group

/-- Merging from the far end is searching from the near one. -/
theorem Overlays.foldl {α : Type} {f : StyleDefinition → Option α} (h : Overlays f)
    (definitions : List StyleDefinition) (base : StyleDefinition) :
    f (definitions.foldl overlay base) = (definitions.reverse.findSome? f).or (f base) := by
  induction definitions generalizing base with
  | nil => rfl
  | cons first rest ih =>
      rw [List.foldl_cons, ih, h, List.reverse_cons, List.findSome?_append, Option.or_assoc]
      congr 1
      rw [List.findSome?_cons, List.findSome?_nil]
      cases f first <;> rfl

end StyleDefinition

namespace Document

open StyleDefinition

variable {α : Type} {f : StyleDefinition → Option α} {d : Document} {style : StyleId}
  {includeDefault : Bool} {merged : StyleDefinition}

/-- What a style resolves to: what the nearest style that sets it has, from the style itself on
upwards; failing that the default style, if it counts. -/
def Resolves (d : Document) (style : StyleId) (includeDefault : Bool)
    (f : StyleDefinition → Option α) (answer : Option α) : Prop :=
  ∃ nearest, First (setting? d.styles f style) nearest ∧
    answer = nearest.or (if includeDefault then f d.defaultStyle else none)

theorem findSome?_filterMap {β γ : Type} (g : β → Option γ) (f : γ → Option α) (l : List β) :
    (l.filterMap g).findSome? f = l.findSome? fun x => (g x).bind f := by
  induction l with
  | nil => rfl
  | cons x rest ih =>
      cases hx : g x with
      | none => simp [hx, ih]
      | some y => simp [hx, List.findSome?_cons, ih]

theorem findSome?_chainDefinitions (d : Document) (style : StyleId)
    (f : StyleDefinition → Option α) :
    (d.chainDefinitions style).reverse.findSome? f =
      (d.parentChain style).findSome? fun id => (d.styles.get? id).bind fun s =>
        f s.definition := by
  unfold chainDefinitions
  rw [← List.filterMap_reverse, List.reverse_reverse, findSome?_filterMap]
  simp only [Option.bind_map]
  rfl

/-- Only what is no style at all has no attributes. -/
theorem inheritedAttributes_eq_none_iff (d : Document) (style : StyleId) (includeDefault : Bool) :
    d.inheritedAttributes style includeDefault = none ↔ d.defines style = false := by
  unfold inheritedAttributes defines
  rw [parentChain_eq]
  by_cases hdefault : style.isDefault = true
  · simp [node?, hdefault]
  · cases hget : d.styles.get? style <;> simp [node?, hdefault, Dict.contains, hget]

/-- A lookup that passes through merges, and finds nothing in an empty definition, finds what the
style resolves to. -/
theorem resolves_inheritedAttributes (h : Overlays f) (hempty : f {} = none)
    (hmerged : d.inheritedAttributes style includeDefault = some merged) :
    d.Resolves style includeDefault f (f merged) := by
  refine ⟨_, first_parentChain d style f, ?_⟩
  unfold inheritedAttributes at hmerged
  split at hmerged
  · cases hmerged
  · rw [← Option.some.inj hmerged, h.foldl, findSome?_chainDefinitions]
    cases includeDefault <;> simp [hempty]

/-- Whether something is found at all, by a search or by looking everywhere. -/
theorem Resolves.isSome_iff {answer : Option α} (h : d.Resolves style includeDefault f answer) :
    answer.isSome = true ↔
      (∃ n s, ancestor? d.styles n style = some s ∧ (f s.definition).isSome = true) ∨
        includeDefault = true ∧ (f d.defaultStyle).isSome = true := by
  obtain ⟨nearest, hfirst, rfl⟩ := h
  have hsetting : ∀ n, (setting? d.styles f style n).isSome = true ↔
      ∃ s, ancestor? d.styles n style = some s ∧ (f s.definition).isSome = true := by
    intro n
    unfold setting?
    cases ancestor? d.styles n style <;> simp
  rw [Option.isSome_or, Bool.or_eq_true, hfirst.isSome_iff]
  simp only [hsetting]
  cases includeDefault <;> simp

/-- A style that there is inherits as the nearest definition wins: every attribute and every property
is that of the first style that sets it, from the style itself on along its parents, and that of the
default style, if it counts, when none does. A property group is there if one of them has it. -/
theorem nearest_definition_wins (d : Document) (style : StyleId) (includeDefault : Bool) :
    (d.inheritedAttributes style includeDefault = none ↔ d.defines style = false) ∧
      ∀ merged, d.inheritedAttributes style includeDefault = some merged →
        (∀ key, d.Resolves style includeDefault (·.attributes.get? key)
          (merged.attributes.get? key)) ∧
        (∀ group key, d.Resolves style includeDefault (·.property? group key)
          (merged.property? group key)) ∧
        ∀ group, merged.properties.contains group = true ↔
          (∃ n s, ancestor? d.styles n style = some s ∧
            s.definition.properties.contains group = true) ∨
          includeDefault = true ∧ d.defaultStyle.properties.contains group = true := by
  refine ⟨inheritedAttributes_eq_none_iff d style includeDefault, fun merged hmerged => ?_⟩
  refine ⟨fun key => ?_, fun group key => ?_, fun group => ?_⟩
  · exact resolves_inheritedAttributes (overlays_attribute key) rfl hmerged
  · exact resolves_inheritedAttributes (overlays_property group key) rfl hmerged
  · simp only [contains_eq_group?]
    exact (resolves_inheritedAttributes (overlays_group group) rfl hmerged).isSome_iff

/-- Two styles that are each other's parent and a third one under them. All set the size, two the
colour, and the default style sets the margin. -/
def circle : Document :=
  .build [.commonStyle ⟨"A"⟩ "A", .commonStyle ⟨"B"⟩ "B", .automaticStyle ⟨"C"⟩ ⟨"A"⟩,
    .parent ⟨"A"⟩ ⟨"B"⟩, .parent ⟨"B"⟩ ⟨"A"⟩, .styleProperty ⟨"A"⟩ "text" "size" "1",
    .styleProperty ⟨"B"⟩ "text" "size" "2", .styleProperty ⟨"C"⟩ "text" "size" "3",
    .styleProperty ⟨"B"⟩ "text" "colour" "red", .styleProperty ⟨""⟩ "text" "colour" "blue",
    .styleProperty ⟨""⟩ "paragraph" "margin" "0"]

/-- The size is the style's own and the colour comes from two parents up. -/
theorem nearest_definition_in_circle :
    ∃ merged, circle.inheritedAttributes ⟨"C"⟩ true = some merged ∧
      merged.property? "text" "size" = some "3" ∧
      merged.property? "text" "colour" = some "red" ∧
      merged.properties.contains "paragraph" = true := by
  obtain ⟨merged, hmerged⟩ := Option.isSome_iff_exists.1
    (by decide +kernel : (circle.inheritedAttributes ⟨"C"⟩ true).isSome = true)
  obtain ⟨-, hproperty, hgroup⟩ := (nearest_definition_wins circle ⟨"C"⟩ true).2 merged hmerged
  refine ⟨merged, hmerged, ?_, ?_, (hgroup "paragraph").2 (.inr ⟨rfl, by decide +kernel⟩)⟩
  · obtain ⟨nearest, hfirst, hsize⟩ := hproperty "text" "size"
    have hown : First (setting? circle.styles (·.property? "text" "size") ⟨"C"⟩) (some "3") :=
      First.of_head (by decide +kernel)
    rw [hsize, hfirst.eq hown]
    rfl
  · obtain ⟨nearest, hfirst, hcolour⟩ := hproperty "text" "colour"
    have hfar : First (setting? circle.styles (·.property? "text" "colour") ⟨"C"⟩) (some "red") :=
      ⟨2, by decide +kernel, by decide +kernel⟩
    rw [hcolour, hfirst.eq hfar]
    rfl

end Document

end Coedit
