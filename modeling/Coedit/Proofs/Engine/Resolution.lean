import Coedit.Document.Builder
import Coedit.Proofs.Engine.Chains
import Mathlib.Data.List.Chain

/-!
# Styles resolve on every graph

Parents may be missing, point back to their children or lead in circles. A chain of styles comes to
its end nevertheless, and there is only one: the laws of a `Lineage` leave no choice
(`parentChain_eq_iff`). So a style either resolves to a style that users see, which resolves to
itself, or all of its chain is automatic.
-/

namespace Coedit.Document

variable {d : Document} {styles : Dict StyleId Style} {seen chain chain' : List StyleId}
  {next : Option StyleId} {style id : StyleId} {s : Style} {steps : Nat}

def parent? (styles : Dict StyleId Style) (id : StyleId) : Option StyleId :=
  (styles.get? id).bind (·.parent)

theorem parent?_of_node? (h : node? styles id = some s) : parent? styles id = s.parent := by
  rw [parent?, (get?_of_node? h).2, Option.bind_some]

/-- Where a walk ends does not depend on where it began, once it has begun. -/
theorem elim_getLast?_cons (next : Option StyleId) (f : StyleId → Option StyleId) :
    (id :: chain).getLast?.elim next f = chain.getLast?.elim (f id) f := by
  rw [List.getLast?_cons]
  cases chain.getLast? <;> rfl

/-! ## Walks -/

/-- A walk along parents from `next`, after some styles were seen. It ends only where there is no
next style of the graph, or one that was seen before. -/
structure Walk (styles : Dict StyleId Style) (seen : List StyleId) (next : Option StyleId)
    (chain : List StyleId) : Prop where
  distinct : chain.Nodup
  fresh : ∀ id ∈ chain, id ∉ seen
  nodes : ∀ id ∈ chain, ∃ s, node? styles id = some s
  head : ∀ first ∈ chain.head?, next = some first
  linked : chain.IsChain fun id parent => parent? styles id = some parent
  stops : ∀ p ∈ chain.getLast?.elim next (parent? styles),
    node? styles p = none ∨ p ∈ seen ∨ p ∈ chain

namespace Walk

theorem nil (h : ∀ p ∈ next, node? styles p = none ∨ p ∈ seen) : Walk styles seen next [] where
  distinct := List.nodup_nil
  fresh := fun _ hid => (List.not_mem_nil hid).elim
  nodes := fun _ hid => (List.not_mem_nil hid).elim
  head := fun _ hfirst => by simp at hfirst
  linked := .nil
  stops := fun p hp => (h p hp).imp_right .inl

theorem cons (hnode : node? styles id = some s) (hnew : id ∉ seen)
    (h : Walk styles (id :: seen) s.parent chain) : Walk styles seen (some id) (id :: chain) where
  distinct := List.nodup_cons.2 ⟨fun hid => h.fresh id hid List.mem_cons_self, h.distinct⟩
  fresh := by
    intro other hother
    rcases List.mem_cons.1 hother with rfl | hrest
    · exact hnew
    · exact fun hseen => h.fresh other hrest (List.mem_cons_of_mem _ hseen)
  nodes := by
    intro other hother
    rcases List.mem_cons.1 hother with rfl | hrest
    · exact ⟨s, hnode⟩
    · exact h.nodes other hrest
  head := fun _ hfirst => by simpa using hfirst
  linked := by
    refine List.isChain_cons.2 ⟨fun first hfirst => ?_, h.linked⟩
    rw [parent?_of_node? hnode]
    exact h.head first hfirst
  stops := by
    intro p hp
    rw [elim_getLast?_cons, parent?_of_node? hnode] at hp
    rcases h.stops p hp with hmissing | hseen | hrest
    · exact .inl hmissing
    · rcases List.mem_cons.1 hseen with rfl | hseen
      · exact .inr (.inr List.mem_cons_self)
      · exact .inr (.inl hseen)
    · exact .inr (.inr (List.mem_cons_of_mem _ hrest))

/-- What a walk goes on with, after its first style. -/
theorem tail (h : Walk styles seen next (id :: chain)) :
    next = some id ∧ id ∉ seen ∧ ∃ s, node? styles id = some s ∧
      Walk styles (id :: seen) s.parent chain := by
  obtain ⟨s, hnode⟩ := h.nodes id List.mem_cons_self
  obtain ⟨hself, hdistinct⟩ := List.nodup_cons.1 h.distinct
  obtain ⟨hparent, hlinked⟩ := List.isChain_cons.1 h.linked
  rw [parent?_of_node? hnode] at hparent
  refine ⟨h.head id rfl, h.fresh id List.mem_cons_self, s, hnode, hdistinct, fun other hother => ?_,
    fun other hother => h.nodes other (List.mem_cons_of_mem _ hother), hparent, hlinked,
    fun p hp => ?_⟩
  · rw [List.mem_cons, not_or]
    exact ⟨fun heq => hself (heq ▸ hother), h.fresh other (List.mem_cons_of_mem _ hother)⟩
  · rw [← parent?_of_node? hnode, ← elim_getLast?_cons next] at hp
    rcases h.stops p hp with hmissing | hseen | hchain
    · exact .inl hmissing
    · exact .inr (.inl (List.mem_cons_of_mem _ hseen))
    · rcases List.mem_cons.1 hchain with rfl | hrest
      · exact .inr (.inl List.mem_cons_self)
      · exact .inr (.inr hrest)

theorem not_nil (h : Walk styles seen (some id) []) (hnode : node? styles id = some s)
    (hnew : id ∉ seen) : False := by
  rcases h.stops id rfl with hmissing | hseen | hchain
  · rw [hnode] at hmissing
    cases hmissing
  · exact hnew hseen
  · exact List.not_mem_nil hchain

/-- There is only one walk: a walk goes on whenever it can. -/
theorem unique (h : Walk styles seen next chain) (h' : Walk styles seen next chain') :
    chain = chain' := by
  induction chain generalizing seen next chain' with
  | nil =>
      cases chain' with
      | nil => rfl
      | cons id rest' =>
          obtain ⟨rfl, hnew, s, hnode, -⟩ := h'.tail
          exact (h.not_nil hnode hnew).elim
  | cons id rest ih =>
      obtain ⟨rfl, hnew, s, hnode, hrest⟩ := h.tail
      cases chain' with
      | nil => exact (h'.not_nil hnode hnew).elim
      | cons id' rest' =>
          obtain ⟨hid, -, s', hnode', hrest'⟩ := h'.tail
          cases hid
          rw [hnode, Option.some.injEq] at hnode'
          subst hnode'
          rw [ih hrest hrest']

end Walk

/-- The induction is on the steps: as long as there are more of them than styles that were not
seen, they do not run out before the walk is over. -/
theorem walk_chainFrom (h : Enough styles steps seen) (next : Option StyleId) :
    Walk styles seen next (chainFrom styles steps seen next) := by
  induction steps generalizing seen next with
  | zero => exact (Nat.not_lt_zero _ h).elim
  | succ steps ih =>
      cases next with
      | none => exact .nil fun _ hp => by cases hp
      | some id =>
          by_cases hseen : id ∈ seen
          · rw [chainFrom_of_seen hseen]
            exact .nil fun p hp => .inr (Option.some.inj hp ▸ hseen)
          · cases hnode : node? styles id with
            | none =>
                rw [chainFrom_of_missing hnode]
                exact .nil fun p hp => .inl (Option.some.inj hp ▸ hnode)
            | some s =>
                rw [chainFrom_of_new hnode hseen]
                exact .cons hnode hseen (ih (h.cons hnode hseen) s.parent)

/-! ## Lineages -/

/-- What the chain of a style has to be: it lists styles of the document, each once and each
followed by its parent, and goes on from the style itself for as long as there is a parent to go on
to. -/
structure Lineage (d : Document) (style : StyleId) (chain : List StyleId) : Prop where
  distinct : chain.Nodup
  existing : ∀ id ∈ chain, id.isDefault = false ∧ d.styles.contains id = true
  starts : style.isDefault = false → d.styles.contains style = true → chain.head? = some style
  empty : style.isDefault = true ∨ d.styles.contains style = false → chain = []
  linked : chain.IsChain fun id parent => parent? d.styles id = some parent
  stops : ∀ last ∈ chain.getLast?, ∀ p ∈ parent? d.styles last,
    p.isDefault = true ∨ d.styles.contains p = false ∨ p ∈ chain

theorem exists_node?_iff :
    (∃ s, node? styles id = some s) ↔ id.isDefault = false ∧ styles.contains id = true := by
  unfold node? Dict.contains
  cases id.isDefault <;> simp [Option.isSome_iff_exists]

theorem node?_eq_none_iff :
    node? styles id = none ↔ id.isDefault = true ∨ styles.contains id = false := by
  unfold node? Dict.contains
  cases id.isDefault <;> simp

theorem lineage_of_walk (h : Walk d.styles [] (some style) chain) : d.Lineage style chain where
  distinct := h.distinct
  existing := fun id hid => exists_node?_iff.1 (h.nodes id hid)
  starts := by
    intro hdefault hcontains
    obtain ⟨s, hnode⟩ := exists_node?_iff.2 ⟨hdefault, hcontains⟩
    cases chain with
    | nil => exact (h.not_nil hnode List.not_mem_nil).elim
    | cons first rest => exact (h.head first rfl).symm
  empty := by
    intro hmissing
    cases chain with
    | nil => rfl
    | cons first rest =>
        obtain ⟨hfirst, -, s, hnode, -⟩ := h.tail
        cases hfirst
        rw [node?_eq_none_iff.2 hmissing] at hnode
        cases hnode
  linked := h.linked
  stops := by
    intro last hlast p hp
    have hend : p ∈ chain.getLast?.elim (some style) (parent? d.styles) := by
      rw [Option.mem_def.1 hlast]
      exact hp
    rcases h.stops p hend with hmissing | hseen | hchain
    · exact or_assoc.1 (.inl (node?_eq_none_iff.1 hmissing))
    · exact (List.not_mem_nil hseen).elim
    · exact .inr (.inr hchain)

theorem Lineage.walk (h : d.Lineage style chain) : Walk d.styles [] (some style) chain where
  distinct := h.distinct
  fresh := fun _ _ => List.not_mem_nil
  nodes := fun id hid => exists_node?_iff.2 (h.existing id hid)
  head := by
    intro first hfirst
    by_cases hstyle : style.isDefault = false ∧ d.styles.contains style = true
    · rw [← h.starts hstyle.1 hstyle.2]
      exact hfirst
    · rw [← exists_node?_iff, ← Option.ne_none_iff_exists', not_not, node?_eq_none_iff] at hstyle
      simp [h.empty hstyle] at hfirst
  linked := h.linked
  stops := by
    intro p hp
    cases hlast : chain.getLast? with
    | none =>
        rw [hlast] at hp
        cases hp
        obtain rfl := List.getLast?_eq_none_iff.1 hlast
        refine .inl (node?_eq_none_iff.2 ?_)
        by_contra hstyle
        rw [← node?_eq_none_iff] at hstyle
        obtain ⟨hdefault, hcontains⟩ := exists_node?_iff.1 (Option.ne_none_iff_exists'.1 hstyle)
        simpa using h.starts hdefault hcontains
    | some last =>
        rw [hlast] at hp
        rcases h.stops last hlast p hp with hdefault | hmissing | hchain
        · exact .inl (node?_eq_none_iff.2 (.inl hdefault))
        · exact .inl (node?_eq_none_iff.2 (.inr hmissing))
        · exact .inr (.inr hchain)

/-- The laws of a lineage leave no choice. -/
theorem parentChain_eq_iff : d.parentChain style = chain ↔ d.Lineage style chain := by
  have hwalk : Walk d.styles [] (some style) (d.parentChain style) :=
    walk_chainFrom (enough_start d.styles) (some style)
  exact ⟨fun h => h ▸ lineage_of_walk hwalk, fun h => hwalk.unique h.walk⟩

/-! ## What users see -/

theorem isCommon_iff :
    d.isCommon id = true ↔ ∃ s, d.styles.get? id = some s ∧ s.automatic = false := by
  simp [isCommon, Option.any_eq_true]

/-- A style that users see resolves to itself. -/
theorem commonStyleName_self (hdefault : id.isDefault = false) (h : d.isCommon id = true) :
    d.commonStyleName id = some id := by
  obtain ⟨s, hget, -⟩ := isCommon_iff.1 h
  have hnode : node? d.styles id = some s := by simp [node?, hdefault, hget]
  rw [commonStyleName, parentChain_eq, hnode]
  exact List.find?_cons_of_pos h

/-- A style that users see is offered to them. -/
theorem mem_paragraphStyles (h : d.isCommon id = true) : id ∈ d.paragraphStyles.map (·.id) := by
  obtain ⟨s, hget, hautomatic⟩ := isCommon_iff.1 h
  have hmem : (id, s) ∈ d.styles.toList.filter fun entry => !entry.2.automatic :=
    List.mem_filter.2 ⟨(d.styles.get?_eq_some_iff_mem id s).1 hget, by simp [hautomatic]⟩
  exact List.mem_map.2 ⟨_, List.mem_map.2 ⟨_, hmem, rfl⟩, rfl⟩

theorem commonStyleName_eq_none_iff : d.commonStyleName style = none ↔
    ∀ id ∈ d.parentChain style, ∀ s, d.styles.get? id = some s → s.automatic = true := by
  simp [commonStyleName, isCommon_iff]

/-- On every style graph, the chain of every style is the one lineage that it has, and the walk
along it ends by itself. A style resolves to nothing just if its chain is automatic, else to a style
of the chain that users are offered and that resolves to itself. -/
theorem styles_resolve (d : Document) (style : StyleId) :
    (∀ chain, d.parentChain style = chain ↔ d.Lineage style chain) ∧
    (∀ steps, d.styles.size < steps →
      chainFrom d.styles steps [] (some style) = d.parentChain style) ∧
    (d.commonStyleName style = none ↔
      ∀ id ∈ d.parentChain style, ∀ s, d.styles.get? id = some s → s.automatic = true) ∧
    ∀ id, d.commonStyleName style = some id →
      id ∈ d.parentChain style ∧ id ∈ d.paragraphStyles.map (·.id) ∧
        d.commonStyleName id = some id := by
  refine ⟨fun _ => parentChain_eq_iff, fun steps hsteps => ?_, commonStyleName_eq_none_iff,
    fun id hid => ?_⟩
  · have hmore : Enough d.styles steps [] :=
      Nat.lt_of_lt_of_le (enough_start d.styles) hsteps
    exact chainFrom_of_enough hmore (enough_start d.styles) (some style)
  · have hmem := List.mem_of_find?_eq_some hid
    have hcommon : d.isCommon id = true := List.find?_some hid
    have hdefault := ((parentChain_eq_iff.1 rfl).existing id hmem).1
    exact ⟨hmem, mem_paragraphStyles hcommon, commonStyleName_self hdefault hcommon⟩

/-- Two automatic styles that are each other's parent resolve to nothing; with a third style on
their way, which points back to them, they resolve to that one. -/
theorem styles_in_circle_resolve :
    let pair : Document := .build [.automaticStyle ⟨"A"⟩ ⟨"B"⟩, .automaticStyle ⟨"B"⟩ ⟨"A"⟩]
    let three : Document := .build [.automaticStyle ⟨"A"⟩ ⟨"B"⟩, .automaticStyle ⟨"B"⟩ ⟨"C"⟩,
      .commonStyle ⟨"C"⟩ "C", .parent ⟨"C"⟩ ⟨"A"⟩]
    pair.Lineage ⟨"A"⟩ [⟨"A"⟩, ⟨"B"⟩] ∧ pair.commonStyleName ⟨"A"⟩ = none ∧
      three.Lineage ⟨"A"⟩ [⟨"A"⟩, ⟨"B"⟩, ⟨"C"⟩] ∧ three.commonStyleName ⟨"C"⟩ = some ⟨"C"⟩ := by
  intro pair three
  have hthree := styles_resolve three ⟨"A"⟩
  have hname : three.commonStyleName ⟨"A"⟩ = some ⟨"C"⟩ := by decide +kernel
  exact ⟨((styles_resolve pair ⟨"A"⟩).1 _).1 (by decide +kernel), by decide +kernel,
    (hthree.1 _).1 (by decide +kernel), (hthree.2.2.2 _ hname).2.2⟩

end Coedit.Document
