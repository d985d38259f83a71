import Coedit.Document.StyleGraph
import Coedit.Proofs.Dict
import Mathlib.Data.Finset.Card
import Mathlib.Data.Nat.Find

/-!
# Chains of styles

A chain leaves out what was seen before, and it is computed in a bounded number of steps. Neither
shows: following the parents without end, round a circle if there is one, comes by the same styles
in the same order. A chain lists styles of the document alone, and it is not touched when a style
goes that is not on it.
-/

namespace Coedit

def First {α : Type} (look : Nat → Option α) : Option α → Prop
  | some v => ∃ n, look n = some v ∧ ∀ m < n, look m = none
  | none => ∀ n, look n = none

namespace First

variable {α : Type} {look : Nat → Option α} {answer other : Option α}

theorem of_head {v : α} (h : look 0 = some v) : First look (some v) :=
  ⟨0, h, fun _ hm => (Nat.not_lt_zero _ hm).elim⟩

theorem of_tail (hnone : look 0 = none) (h : First (fun n => look (n + 1)) answer) :
    First look answer := by
  cases answer with
  | none =>
      intro n
      cases n with
      | zero => exact hnone
      | succ n => exact h n
  | some v =>
      obtain ⟨n, hn, hbefore⟩ := h
      refine ⟨n + 1, hn, fun m hm => ?_⟩
      cases m with
      | zero => exact hnone
      | succ m => exact hbefore m (by omega)

/-- A sequence begins with its first value, or else that of the rest is the first. -/
theorem cons (h : First (fun n => look (n + 1)) answer) : First look ((look 0).or answer) := by
  cases hhead : look 0 with
  | none => exact of_tail hhead h
  | some v => exact of_head hhead

theorem exists_answer (look : Nat → Option α) : ∃ answer, First look answer := by
  classical
  by_cases h : ∃ n, look n ≠ none
  · cases hfirst : look (Nat.find h) with
    | none => exact absurd hfirst (Nat.find_spec h)
    | some v => exact ⟨some v, Nat.find h, hfirst, fun m hm => by simpa using Nat.find_min h hm⟩
  · exact ⟨none, fun n => by simpa using fun hn => h ⟨n, hn⟩⟩

theorem isSome_iff (h : First look answer) : answer.isSome = true ↔ ∃ n, (look n).isSome = true := by
  cases answer with
  | none => simp [show ∀ n, look n = none from h]
  | some v =>
      obtain ⟨n, hn, -⟩ := h
      simpa using ⟨n, by simp [hn]⟩

/-- There is one first value. -/
theorem eq (h : First look answer) (h' : First look other) : answer = other := by
  cases answer with
  | none =>
      cases other with
      | none => rfl
      | some v =>
          obtain ⟨n, hn, -⟩ := h'
          simp [show look n = none from h n] at hn
  | some v =>
      obtain ⟨n, hn, hbefore⟩ := h
      cases other with
      | none => simp [show look n = none from h' n] at hn
      | some v' =>
          obtain ⟨n', hn', hbefore'⟩ := h'
          have hle : n ≤ n' := by
            by_contra hlt
            simp [hbefore n' (by omega)] at hn'
          have hge : n' ≤ n := by
            by_contra hlt
            simp [hbefore' n (by omega)] at hn
          obtain rfl : n = n' := by omega
          exact hn.symm.trans hn'

end First

namespace Document

variable {styles : Dict StyleId Style} {steps steps' : Nat} {seen : List StyleId}
  {next : Option StyleId} {style id : StyleId} {s : Style}

/-- The style that an identifier stands for in the style graph, in which the default style has no
place. -/
def node? (styles : Dict StyleId Style) (style : StyleId) : Option Style :=
  if style.isDefault then none else styles.get? style

/-- The style `n` parents up, as long as the pointers lead to styles of the document. In a circle
they do so for ever. -/
def ancestor? (styles : Dict StyleId Style) : Nat → StyleId → Option Style
  | 0, style => node? styles style
  | n + 1, style => (node? styles style).bind fun s => s.parent.bind (ancestor? styles n)

theorem get?_of_node? (h : node? styles id = some s) :
    id.isDefault = false ∧ styles.get? id = some s := by
  unfold node? at h
  split at h
  · cases h
  · rename_i hdefault
    exact ⟨by simpa using hdefault, h⟩

/-! ## One style after the other -/

theorem chainFrom_of_seen (h : id ∈ seen) : chainFrom styles steps seen (some id) = [] := by
  cases steps with
  | zero => rfl
  | succ steps => simp [chainFrom, h]

theorem chainFrom_of_missing (h : node? styles id = none) :
    chainFrom styles steps seen (some id) = [] := by
  cases steps with
  | zero => rfl
  | succ steps =>
      unfold chainFrom
      unfold node? at h
      split
      · rfl
      · rename_i hnew
        have hplain : id.isDefault = false := by simp_all
        simp only [hplain, Bool.false_eq_true, if_false] at h
        rw [h]

theorem chainFrom_of_new (h : node? styles id = some s) (hnew : id ∉ seen) :
    chainFrom styles (steps + 1) seen (some id) =
      id :: chainFrom styles steps (id :: seen) s.parent := by
  obtain ⟨hdefault, hget⟩ := get?_of_node? h
  simp [chainFrom, hdefault, hnew, hget]

/-! ## Steps enough -/

/-- There are more steps than styles that were not seen. -/
def Enough (styles : Dict StyleId Style) (steps : Nat) (seen : List StyleId) : Prop :=
  (styles.keySet \ seen.toFinset).card < steps

theorem enough_start (styles : Dict StyleId Style) : Enough styles (styles.size + 1) [] := by
  have hkeys : styles.keySet.card ≤ styles.keys.length := List.toFinset_card_le _
  have hsize : styles.keys.length = styles.size := List.length_map _
  unfold Enough
  simp only [List.toFinset_nil, Finset.sdiff_empty]
  omega

theorem Enough.cons (h : Enough styles (steps + 1) seen) (hnode : node? styles id = some s)
    (hnew : id ∉ seen) : Enough styles steps (id :: seen) := by
  obtain ⟨-, hget⟩ := get?_of_node? hnode
  have hmem : id ∈ styles.keySet \ seen.toFinset := by
    simp [Dict.contains, hget, hnew]
  have hless := Finset.card_erase_lt_of_mem hmem
  unfold Enough at h ⊢
  rw [List.toFinset_cons, Finset.sdiff_insert]
  omega

/-- Steps that are enough are as good as others that are. -/
theorem chainFrom_of_enough (h : Enough styles steps seen) (h' : Enough styles steps' seen)
    (next : Option StyleId) :
    chainFrom styles steps seen next = chainFrom styles steps' seen next := by
  induction steps generalizing steps' seen next with
  | zero => exact (Nat.not_lt_zero _ h).elim
  | succ steps ih =>
      cases steps' with
      | zero => exact (Nat.not_lt_zero _ h').elim
      | succ steps' =>
          cases next with
          | none => rfl
          | some id =>
              by_cases hseen : id ∈ seen
              · rw [chainFrom_of_seen hseen, chainFrom_of_seen hseen]
              · cases hnode : node? styles id with
                | none => rw [chainFrom_of_missing hnode, chainFrom_of_missing hnode]
                | some s =>
                    rw [chainFrom_of_new hnode hseen, chainFrom_of_new hnode hseen,
                      ih (h.cons hnode hseen) (h'.cons hnode hseen)]

/-! ## What is listed -/

/-- A chain lists styles of the document, and never the default style. -/
theorem node?_of_mem_chainFrom (h : id ∈ chainFrom styles steps seen next) :
    ∃ s, node? styles id = some s := by
  induction steps generalizing seen next with
  | zero => cases h
  | succ steps ih =>
      cases next with
      | none => cases h
      | some first =>
          by_cases hseen : first ∈ seen
          · rw [chainFrom_of_seen hseen] at h
            cases h
          · cases hnode : node? styles first with
            | none =>
                rw [chainFrom_of_missing hnode] at h
                cases h
            | some s =>
                rw [chainFrom_of_new hnode hseen] at h
                rcases List.mem_cons.1 h with rfl | h
                · exact ⟨s, hnode⟩
                · exact ih h

/-- The chain begins with the style itself, if that is in the graph. -/
theorem parentChain_eq (d : Document) (style : StyleId) :
    d.parentChain style = match node? d.styles style with
      | none => []
      | some s => style :: chainFrom d.styles d.styles.size [style] s.parent := by
  unfold parentChain
  cases hnode : node? d.styles style with
  | none => rw [chainFrom_of_missing hnode]
  | some s => rw [chainFrom_of_new hnode List.not_mem_nil]

/-! ## Chains without a style -/

theorem node?_erase (h : id ≠ style) : node? (styles.erase style) id = node? styles id := by
  unfold node?
  rw [Dict.get?_erase, if_neg (Ne.symm h)]

theorem node?_erase_self : node? (styles.erase style) style = none := by
  unfold node?
  rw [Dict.get?_erase, if_pos rfl, ite_self]

theorem chainFrom_erase (h : style ∉ chainFrom styles steps seen next) :
    chainFrom (styles.erase style) steps seen next = chainFrom styles steps seen next := by
  induction steps generalizing seen next with
  | zero => rfl
  | succ steps ih =>
      cases next with
      | none => rfl
      | some id =>
          by_cases hseen : id ∈ seen
          · rw [chainFrom_of_seen hseen, chainFrom_of_seen hseen]
          · cases hnode : node? styles id with
            | none =>
                have hgone : node? (styles.erase style) id = none := by
                  by_cases hid : id = style
                  · rw [hid, node?_erase_self]
                  · rw [node?_erase hid, hnode]
                rw [chainFrom_of_missing hnode, chainFrom_of_missing hgone]
            | some s =>
                rw [chainFrom_of_new hnode hseen, List.mem_cons, not_or] at h
                have hkept : node? (styles.erase style) id = some s := by
                  rw [node?_erase (Ne.symm h.1), hnode]
                rw [chainFrom_of_new hnode hseen, chainFrom_of_new hkept hseen, ih h.2]

/-- The chain of another style is the same when a style is gone that was not on it. -/
theorem parentChain_erase {d d' : Document} (hstyles : d'.styles = d.styles.erase style)
    (h : style ∉ d.parentChain id) : d'.parentChain id = d.parentChain id := by
  have hkept := chainFrom_erase h
  have hless : d'.styles.size ≤ d.styles.size := by
    rw [hstyles]
    exact List.length_filter_le _ _
  have hmore : Enough d'.styles (d.styles.size + 1) [] :=
    Nat.lt_of_lt_of_le (enough_start d'.styles) (by omega)
  rw [← hstyles] at hkept
  unfold parentChain
  rw [chainFrom_of_enough (enough_start d'.styles) hmore, hkept]

/-! ## Without end -/

variable {α : Type} {f : StyleDefinition → Option α}

/-- What the style `n` parents up sets of something. -/
def setting? (styles : Dict StyleId Style) (f : StyleDefinition → Option α) (style : StyleId)
    (n : Nat) : Option α :=
  (ancestor? styles n style).bind fun s => f s.definition

theorem setting?_zero (h : node? styles style = some s) :
    setting? styles f style 0 = f s.definition := by
  simp [setting?, ancestor?, h]

theorem setting?_succ (h : node? styles style = some s) (n : Nat) :
    setting? styles f style (n + 1) = s.parent.bind fun p => setting? styles f p n := by
  unfold setting?
  rw [ancestor?, h, Option.bind_some]
  cases s.parent <;> rfl

theorem setting?_of_missing (h : node? styles style = none) (n : Nat) :
    setting? styles f style n = none := by
  unfold setting?
  cases n <;> simp [ancestor?, h]

/-- The parents of styles that were seen were seen too, or come next. -/
def Follows (styles : Dict StyleId Style) (seen : List StyleId) (next : Option StyleId) : Prop :=
  ∀ id ∈ seen, ∀ s, node? styles id = some s → s.parent = next ∨ ∀ p ∈ s.parent, p ∈ seen

def Blank (styles : Dict StyleId Style) (f : StyleDefinition → Option α) (seen : List StyleId) :
    Prop :=
  ∀ id ∈ seen, ∀ s, node? styles id = some s → f s.definition = none

/-- Back in a circle of styles that set nothing, there is nothing to come. -/
theorem setting?_of_circle (hfollows : Follows styles seen next) (hnext : ∀ p ∈ next, p ∈ seen)
    (hblank : Blank styles f seen) (hid : id ∈ seen) (n : Nat) :
    setting? styles f id n = none := by
  induction n generalizing id with
  | zero =>
      cases hnode : node? styles id with
      | none => exact setting?_of_missing hnode 0
      | some s => rw [setting?_zero hnode, hblank id hid s hnode]
  | succ n ih =>
      cases hnode : node? styles id with
      | none => exact setting?_of_missing hnode (n + 1)
      | some s =>
          have hparent : ∀ p ∈ s.parent, p ∈ seen := by
            rcases hfollows id hid s hnode with heq | hseen
            · rw [heq]
              exact hnext
            · exact hseen
          rw [setting?_succ hnode]
          cases hp : s.parent with
          | none => rfl
          | some p => exact ih (hparent p hp)

theorem Follows.cons (h : Follows styles seen (some id)) (hnode : node? styles id = some s) :
    Follows styles (id :: seen) s.parent := by
  intro other hother s' hnode'
  rcases List.mem_cons.1 hother with rfl | hseen
  · rw [hnode, Option.some.injEq] at hnode'
    exact .inl (by rw [hnode'])
  · refine .inr fun p hp => ?_
    rcases h other hseen s' hnode' with heq | hall
    · rw [heq, Option.mem_some_iff] at hp
      exact hp ▸ List.mem_cons_self
    · exact List.mem_cons_of_mem _ (hall p hp)

theorem Blank.cons (h : Blank styles f seen) (hnode : node? styles id = some s)
    (hnone : f s.definition = none) : Blank styles f (id :: seen) := by
  intro other hother s' hnode'
  rcases List.mem_cons.1 hother with rfl | hseen
  · rw [hnode, Option.some.injEq] at hnode'
    rw [← hnode', hnone]
  · exact h other hseen s' hnode'

/-- The induction is on the steps. What carries it is that nothing seen sets anything: whoever
arrives at a style for a second time will not find anything any more. -/
theorem first_chainFrom (henough : Enough styles steps seen) (hfollows : Follows styles seen next)
    (hblank : Blank styles f seen) :
    First (fun n => next.bind fun id => setting? styles f id n)
      ((chainFrom styles steps seen next).findSome? fun id =>
        (styles.get? id).bind fun s => f s.definition) := by
  induction steps generalizing seen next with
  | zero => exact (Nat.not_lt_zero _ henough).elim
  | succ steps ih =>
      cases next with
      | none => exact fun _ => rfl
      | some id =>
          by_cases hseen : id ∈ seen
          · rw [chainFrom_of_seen hseen]
            exact fun n => setting?_of_circle hfollows (by simpa using hseen) hblank hseen n
          · cases hnode : node? styles id with
            | none =>
                rw [chainFrom_of_missing hnode]
                exact fun n => setting?_of_missing hnode n
            | some s =>
                have hget := (get?_of_node? hnode).2
                rw [chainFrom_of_new hnode hseen, List.findSome?_cons, hget, Option.bind_some]
                cases hset : f s.definition with
                | some v =>
                    refine First.of_head ?_
                    rw [Option.bind_some, setting?_zero hnode, hset]
                | none =>
                    refine First.of_tail ?_ ?_
                    · rw [Option.bind_some, setting?_zero hnode, hset]
                    · simp only [Option.bind_some, setting?_succ hnode]
                      exact ih (henough.cons hnode hseen) (hfollows.cons hnode)
                        (hblank.cons hnode hset)

/-- The first style of the chain that sets something is the nearest one that does so. -/
theorem first_parentChain (d : Document) (style : StyleId) (f : StyleDefinition → Option α) :
    First (setting? d.styles f style)
      ((d.parentChain style).findSome? fun id => (d.styles.get? id).bind fun s =>
        f s.definition) := by
  have hfollows : Follows d.styles [] (some style) := fun _ h => (List.not_mem_nil h).elim
  have hblank : Blank d.styles f [] := fun _ h => (List.not_mem_nil h).elim
  exact first_chainFrom (enough_start d.styles) hfollows hblank

end Document

end Coedit
