import Coedit.Proofs.Engine.Inheritance
import Coedit.Proofs.Session.Outcome

/-!
# Copies of styles

Cloning a style adds one style to the document and touches nothing else. The copy sets what the
source itself sets, under a name of its own, and has no parent. So it looks like its source as long
as nothing shows of what the source inherits: where an ancestor sets something that the source does
not set, the copy falls back to the default style.
-/

namespace Coedit

/-! ## What a copy sets -/

namespace StyleDefinition

/-- A copy has the properties and the attributes of its source, but those that identify a style: it
has a name of its own, and no other of these. -/
structure CopiedTo (own : StyleDefinition) (displayName : String) (copy : StyleDefinition) :
    Prop where
  properties : copy.properties = own.properties
  name : copy.attributes.get? displayNameKey = some displayName
  attributes : ∀ key ≠ displayNameKey, copy.attributes.get? key =
    if key ∈ identityAttributes then none else own.attributes.get? key

theorem copiedTo_renamed (own : StyleDefinition) (displayName : String) :
    own.CopiedTo displayName (own.renamed displayName) where
  properties := rfl
  name := Dict.get?_insert_self _ _ _
  attributes := by
    intro key hkey
    unfold renamed
    rw [Dict.get?_insert, if_neg (Ne.symm hkey), Dict.get?_eraseAll]

/-- Two definitions are the same, but for what identifies a style. -/
structure LooksLike (d e : StyleDefinition) : Prop where
  attributes : ∀ key ∉ identityAttributes, d.attributes.get? key = e.attributes.get? key
  properties : d.properties = e.properties

variable {d e own copy : StyleDefinition}

theorem looksLike_iff : d.LooksLike e ↔
    (∀ key ∉ identityAttributes, d.attributes.get? key = e.attributes.get? key) ∧
      (∀ group key, d.property? group key = e.property? group key) ∧
      ∀ group, d.group? group = e.group? group := by
  constructor
  · intro h
    refine ⟨h.attributes, fun group key => ?_, fun group => ?_⟩
    · unfold property?
      rw [h.properties]
    · unfold group?
      rw [h.properties]
  · rintro ⟨hattributes, hproperty, hgroup⟩
    exact ⟨hattributes, properties_ext hgroup hproperty⟩

theorem CopiedTo.looksLike {displayName : String} (h : own.CopiedTo displayName copy) :
    copy.LooksLike own where
  attributes := by
    intro key hkey
    have hne : key ≠ displayNameKey := by
      rintro rfl
      exact hkey (by decide)
    rw [h.attributes key hne, if_neg hkey]
  properties := h.properties

/-- What looks the same does so over the same base. -/
theorem LooksLike.overlay (h : d.LooksLike e) (base : StyleDefinition) :
    (base.overlay d).LooksLike (base.overlay e) where
  attributes := by
    intro key hkey
    unfold StyleDefinition.overlay
    rw [Dict.get?_extend, Dict.get?_extend, h.attributes key hkey]
  properties := by
    unfold StyleDefinition.overlay
    rw [h.properties]

theorem LooksLike.trans_iff {look : StyleDefinition} (h : d.LooksLike e) :
    d.LooksLike look ↔ e.LooksLike look := by
  constructor
  · exact fun hlook => ⟨fun key hkey => (h.attributes key hkey).symm.trans
      (hlook.attributes key hkey), h.properties.symm.trans hlook.properties⟩
  · exact fun hlook => ⟨fun key hkey => (h.attributes key hkey).trans
      (hlook.attributes key hkey), h.properties.trans hlook.properties⟩

end StyleDefinition

/-! ## What shows of an inheritance -/

namespace Document

open StyleDefinition

variable {α : Type} {f : StyleDefinition → Option α} {d : Document} {source style : StyleId}
  {own look : StyleDefinition}

/-- Something that a style inherits shows: the style does not set it itself, and the nearest of its
ancestors that does so sets it otherwise than the default style. -/
def Shows (d : Document) (source : StyleId) (own : StyleDefinition)
    (f : StyleDefinition → Option α) : Prop :=
  f own = none ∧ ∃ v, First (fun n => setting? d.styles f source (n + 1)) (some v) ∧
    f d.defaultStyle ≠ some v

/-- A style answers for itself first, then its ancestors do, and the default style last. -/
theorem own_then_inherited (hf : Overlays f) (hempty : f {} = none)
    (hown : d.definition? source = some own) (hlook : d.inheritedAttributes source true = some look) :
    ∃ inherited, First (fun n => setting? d.styles f source (n + 1)) inherited ∧
      f look = (f own).or (inherited.or (f d.defaultStyle)) := by
  obtain ⟨inherited, hinherited⟩ :=
    First.exists_answer fun n => setting? d.styles f source (n + 1)
  obtain ⟨nearest, hnearest, heq⟩ := resolves_inheritedAttributes hf hempty hlook
  refine ⟨inherited, hinherited, ?_⟩
  rw [heq, hnearest.eq hinherited.cons, Option.or_assoc, if_pos rfl]
  cases hdefault : source.isDefault with
  | true =>
      have hnode : node? d.styles source = none := by simp [node?, hdefault]
      have hnothing : First (fun n => setting? d.styles f source (n + 1)) none :=
        fun n => setting?_of_missing hnode (n + 1)
      have hnone : inherited = none := hinherited.eq hnothing
      have hbase : own = d.defaultStyle := by
        simpa [definition?, hdefault, eq_comm] using hown
      rw [setting?_of_missing hnode, hnone, hbase]
      simp
  | false =>
      simp only [definition?, hdefault, Bool.false_eq_true, if_false, Option.map_eq_some_iff] at hown
      obtain ⟨s, hs, rfl⟩ := hown
      have hnode : node? d.styles source = some s := by simp [node?, hdefault, hs]
      rw [setting?_zero hnode]

/-- Nothing shows just if the default style gives what is inherited. -/
theorem base_look_iff (hf : Overlays f) (hempty : f {} = none)
    (hown : d.definition? source = some own) (hlook : d.inheritedAttributes source true = some look) :
    f (d.defaultStyle.overlay own) = f look ↔ ¬ d.Shows source own f := by
  obtain ⟨inherited, hfirst, heq⟩ := own_then_inherited hf hempty hown hlook
  rw [hf, heq]
  unfold Shows
  cases hset : f own with
  | some v => simp
  | none =>
      cases inherited with
      | none =>
          have hnever : ∀ v, ¬ First (fun n => setting? d.styles f source (n + 1)) (some v) :=
            fun v hv => by cases hfirst.eq hv
          simp [hnever]
      | some v =>
          have honly : ∀ v', First (fun n => setting? d.styles f source (n + 1)) (some v') ↔
              v' = v := by
            intro v'
            constructor
            · exact fun hv' => Option.some.inj (hv'.eq hfirst)
            · rintro rfl
              exact hfirst
          simp [honly]

/-- Nothing shows in a style that has no parent in the document. -/
theorem not_shows_of_alone (h : ancestor? d.styles 1 source = none) : ¬ d.Shows source own f := by
  have hnone : ∀ n, setting? d.styles f source (n + 1) = none := by
    intro n
    cases hnode : node? d.styles source with
    | none => exact setting?_of_missing hnode (n + 1)
    | some s =>
        rw [setting?_succ hnode]
        cases hparent : s.parent with
        | none => rfl
        | some p =>
            have hgone : node? d.styles p = none := by
              simpa [ancestor?, hnode, hparent] using h
            exact setting?_of_missing hgone n
  rintro ⟨-, v, ⟨n, hn, -⟩, -⟩
  cases (hnone n).symm.trans hn

theorem definition?_eq_none_iff : d.definition? style = none ↔ d.defines style = false := by
  unfold definition? defines
  cases style.isDefault <;> simp [Dict.contains]

/-- A style without ancestors has what it sets itself, over the default style. -/
theorem inheritedAttributes_of_orphan {s : Style} (hnode : node? d.styles style = some s)
    (hparent : s.parent = none) :
    d.inheritedAttributes style true = some (d.defaultStyle.overlay s.definition) := by
  have hchain : d.parentChain style = [style] := by
    rw [parentChain_eq, hnode]
    simp only [hparent]
    cases d.styles.size <;> rfl
  unfold inheritedAttributes chainDefinitions
  rw [hchain]
  simp [(get?_of_node? hnode).2]

/-- A style is listed once, under its name, if users see it. -/
theorem filter_paragraphStyles (d : Document) (style : StyleId) :
    d.paragraphStyles.filter (·.id = style) =
      (((d.styles.get? style).filter fun s => !s.automatic).map fun s =>
        { id := style
          displayName := (s.definition.attributes.get? displayNameKey).getD style.text }).toList := by
  have hkeys : ((fun summary : StyleSummary => decide (summary.id = style)) ∘
      fun e : StyleId × Style =>
        { id := e.1, displayName := (e.2.definition.attributes.get? displayNameKey).getD e.1.text }) =
      fun e => decide (e.1 = style) := rfl
  unfold paragraphStyles
  rw [List.filter_map]
  simp only [hkeys]
  rw [List.filter_comm, Dict.filter_toList]
  cases d.styles.get? style with
  | none => rfl
  | some s => cases hautomatic : s.automatic <;> simp [Option.filter, hautomatic]

end Document

/-- No style is the default style that has an identifier made as identifiers are. -/
theorem Identifier.Admissible.isDefault_eq_false {style : StyleId} (h : Admissible style.text) :
    style.isDefault = false := by
  obtain ⟨⟨c, hhead, -⟩, -⟩ := h
  unfold StyleId.isDefault
  rw [beq_eq_false_iff_ne]
  intro hempty
  rw [hempty] at hhead
  cases hhead

/-! ## What is proposed -/

namespace SessionCore

/-- As many names are taken as there are attempts for an identifier, which are more than 64 bits can
count. -/
def Crowded (s : SessionCore) (r : Replica) : Prop :=
  Identifier.attemptCount ≤ s.reserved.length + r.document.styles.size

/-- The ways in which the proposal of a clone ends: there is no such source, no identifier is left,
or what the source sets itself is proposed under a new identifier. -/
inductive CloneProposed (s : SessionCore) (r : Replica) (source : StyleId) (displayName : String) :
    Except SessionError Proposal → Prop where
  | unknown (h : r.document.definition? source = none) :
      CloneProposed s r source displayName (.error (.unknownStyle source))
  | exhausted (own : StyleDefinition) (hown : r.document.definition? source = some own)
      (hcrowded : s.Crowded r) :
      CloneProposed s r source displayName
        (.error (.identifier (.namespaceExhausted (Identifier.synthesize displayName))))
  | proposed (own : StyleDefinition) (style : StyleId)
      (hown : r.document.definition? source = some own)
      (hadmissible : Identifier.Admissible style.text)
      (habsent : r.document.styles.contains style = false) :
      CloneProposed s r source displayName (.ok
        { batch := [.addStyle s.member style .paragraph (own.renamed displayName)]
          reserve := some style
          answer := .created style })

theorem freshStyleId_cases (s : SessionCore) (r : Replica) (displayName : String) :
    (∃ style, s.freshStyleId r displayName = .ok style ∧ Identifier.Admissible style.text) ∨
      s.Crowded r ∧ s.freshStyleId r displayName =
        .error (.namespaceExhausted (Identifier.synthesize displayName)) := by
  let taken := (s.reserved ++ r.document.styles.keys).map (·.text)
  have hfresh : s.freshStyleId r displayName = (Identifier.uniqueWithin (.names taken)
      (Identifier.synthesize displayName) s.salt).map StyleId.mk := rfl
  rw [hfresh]
  obtain ⟨n, hunique, -⟩ | ⟨hmany, hunique⟩ :=
    Identifier.uniqueWithin_cases taken (Identifier.synthesize displayName) s.salt
  · rw [hunique]
    exact .inl ⟨_, rfl, Identifier.admissible_attempt
      (Identifier.admissible_synthesize displayName)
      (Identifier.admissible_synthesize s.member.text) n⟩
  · rw [hunique]
    have hlength : taken.length = s.reserved.length + r.document.styles.size := by
      simp [taken, Dict.keys, Dict.size]
    refine .inr ⟨?_, rfl⟩
    unfold Crowded
    rw [← hlength]
    exact Nat.le_trans hmany (List.toFinset_card_le taken)

theorem cloneProposed_proposeClone (s : SessionCore) (r : Replica) (source : StyleId)
    (displayName : String) :
    s.CloneProposed r source displayName (s.proposeClone r source displayName) := by
  unfold proposeClone
  cases hown : r.document.definition? source with
  | none => exact .unknown hown
  | some own =>
      obtain ⟨style, hfresh, hadmissible⟩ | ⟨hcrowded, hfresh⟩ :=
        s.freshStyleId_cases r displayName
      · simp only [hfresh]
        exact .proposed own style hown hadmissible (freshStyleId_spec hfresh).2
      · simp only [hfresh]
        exact .exhausted own hown hcrowded

end SessionCore

/-! ## What is added -/

def Replica.withStyle (r : Replica) (style : StyleId) (s : Style) : Replica :=
  r.withDocument { r.document with styles := r.document.styles.insert style s }

namespace Workspace

variable {w : Workspace} {id : Nat} {s : Session} {source style : StyleId} {displayName : String}

/-- When a proposed clone is applied, the document has the copy. -/
theorem replica_clone_flushed (hquiet : w.Quiet) (hempty : w.engine.pending = [])
    {member : MemberId} {definition : StyleDefinition} {p : Proposal}
    (hbatch : p.batch = [.addStyle member style .paragraph definition]) (id : Nat) :
    (((w.promised id p).followUp conduct).flush conduct).engine.replica =
      w.engine.replica.withStyle style { definition } := by
  rw [engine_flush_promised hquiet hempty id p, hbatch]
  rfl

/-- An open engine that refuses no new styles leaves a clone to what is proposed. -/
theorem clone_of_admitted (hopen : w.engine.isOpen = true)
    (hadmits : "AddStyle" ∉ w.refusals.operations) (hs : w.sessions.get? id = some s)
    (source : StyleId) (displayName : String) :
    w.edit conduct id (.cloneStyle source displayName) =
      match s.core.proposeClone w.engine.replica source displayName with
      | .error cause => (.error cause, w)
      | .ok p => (.ok p.answer, if p.batch = [] then w else (w.promised id p).followUp conduct) := by
  refine edit_of_admitted hs hopen (fun p hp op hop => ?_) conduct
  obtain ⟨style, hadds⟩ := SessionCore.proposeClone_adds hp
  obtain ⟨definition, hbatch⟩ := hadds.batch
  rw [hbatch, List.mem_singleton] at hop
  rw [hop]
  exact hadmits

theorem offered_withStyle (r : Replica) (style : StyleId) (own : StyleDefinition)
    (displayName : String) :
    (r.withStyle style { definition := own.renamed displayName }).document.paragraphStyles.filter
      (·.id = style) = [{ id := style, displayName }] := by
  rw [Document.filter_paragraphStyles]
  simp [Replica.withStyle, Replica.withDocument, Option.filter,
    (StyleDefinition.copiedTo_renamed own displayName).name]

/-- A clone of what is no style at all is refused, and then nothing changes. Otherwise the answer is
a new identifier, which is made as identifiers are; after a flush the document has one style more, a
copy that users see and that has no parent, and is the same besides; and the copy is offered once,
under its name. Only if the document and the session hold more identifiers than 64 bits can count,
none may be left, and then too nothing changes. -/
theorem clone_adds_one_style (hquiet : w.Quiet) (hopen : w.engine.isOpen = true)
    (hempty : w.engine.pending = []) (hadmits : "AddStyle" ∉ w.refusals.operations)
    (hs : w.sessions.get? id = some s) (source : StyleId) (displayName : String) :
    let r := w.engine.replica
    let called := w.edit conduct id (.cloneStyle source displayName)
    let w' := called.2.flush conduct
    (called.1 = .error (.unknownStyle source) ↔ r.document.defines source = false) ∧
      (r.document.defines source = false → called.2 = w) ∧
      (r.document.defines source = true → (∃ style own copy,
        called.1 = .ok (.created style) ∧
        r.document.defines style = false ∧ Identifier.Admissible style.text ∧
        r.document.definition? source = some own ∧ own.CopiedTo displayName copy ∧
        w'.engine.replica =
          r.withStyle style { definition := copy, parent := none, automatic := false } ∧
        w'.engine.document.paragraphStyles.filter (·.id = style) =
          [{ id := style, displayName }]) ∨
        s.core.Crowded r ∧ called =
          (.error (.identifier (.namespaceExhausted (Identifier.synthesize displayName))), w)) := by
  intro r called w'
  have hcalled := clone_of_admitted hopen hadmits hs source displayName
  have hproposed := s.core.cloneProposed_proposeClone r source displayName
  have hdefines : ∀ own, r.document.definition? source = some own →
      r.document.defines source = true := by
    intro own hown
    rw [← Bool.not_eq_false, ← Document.definition?_eq_none_iff, hown]
    exact Option.some_ne_none own
  generalize s.core.proposeClone r source displayName = proposal at hcalled hproposed
  cases hproposed with
  | unknown hnone =>
      have hundefined : r.document.defines source = false := Document.definition?_eq_none_iff.1 hnone
      have hrefused : called = (.error (.unknownStyle source), w) := hcalled
      rw [hrefused, hundefined]
      exact ⟨by simp, fun _ => rfl, fun h => Bool.noConfusion h⟩
  | exhausted own hown hcrowded =>
      have hrefused : called =
        (.error (.identifier (.namespaceExhausted (Identifier.synthesize displayName))), w) := hcalled
      rw [hrefused, hdefines own hown]
      exact ⟨by simp, fun _ => rfl, fun _ => .inr ⟨hcrowded, rfl⟩⟩
  | proposed own style hown hadmissible habsent =>
      have haccepted : called.1 = .ok (.created style) := congrArg (·.1) hcalled
      have hreplica : w'.engine.replica =
          r.withStyle style { definition := own.renamed displayName } := by
        show (called.2.flush conduct).engine.replica = _
        rw [show called = _ from hcalled]
        exact replica_clone_flushed hquiet hempty rfl id
      have hoffered : w'.engine.document.paragraphStyles.filter (·.id = style) =
          [{ id := style, displayName }] := by
        unfold Engine.document
        rw [hreplica, offered_withStyle]
      have hnew : r.document.defines style = false := by
        simp [Document.defines, hadmissible.isDefault_eq_false, habsent]
      rw [haccepted, hdefines own hown]
      exact ⟨by simp, fun h => Bool.noConfusion h, fun _ => .inl ⟨style, own,
        own.renamed displayName, rfl, hnew, hadmissible, hown,
        StyleDefinition.copiedTo_renamed own displayName, hreplica, hoffered⟩⟩

/-- A document with a style that sets a margin and an automatic style under it. -/
def withMargin : Workspace :=
  (createSession { member := ⟨"m"⟩ } .all
    { engine := ({} : Engine EngineListener).openDocument (.build
      [.commonStyle ⟨"Body"⟩ "Body Text",
        .styleProperty ⟨"Body"⟩ "paragraph-properties" "margin" "1cm",
        .automaticStyle ⟨"P1"⟩ ⟨"Body"⟩, .paragraph "one" ⟨"P1"⟩]) }).2

theorem get?_withMargin : ∃ s, withMargin.sessions.get? 0 = some s :=
  Option.isSome_iff_exists.1 (by decide +kernel)

/-- A clone of the automatic style is offered; a style that is not there has no clone. -/
theorem clone_of_automatic_style :
    let clone (source : StyleId) : Edit := .cloneStyle source "My"
    (withMargin.edit conduct 0 (clone ⟨"P2"⟩)).1 = .error (.unknownStyle ⟨"P2"⟩) ∧
      (((withMargin.edit conduct 0 (clone ⟨"P1"⟩)).2.flush
        conduct).engine.document.paragraphStyles.filter (·.id = ⟨"My_m"⟩)) =
          [{ id := ⟨"My_m"⟩, displayName := "My" }] := by
  intro clone
  obtain ⟨s, hs⟩ := get?_withMargin
  have hadds := fun source => clone_adds_one_style (w := withMargin)
    (quiet_of_unobserved (by decide +kernel)) (by decide +kernel) (by decide +kernel)
    (by decide +kernel) hs source "My"
  constructor
  · exact (hadds ⟨"P2"⟩).1.2 (by decide +kernel)
  · have hcreated : (withMargin.edit conduct 0 (clone ⟨"P1"⟩)).1 = .ok (.created ⟨"My_m"⟩) := rfl
    obtain ⟨style, -, -, hanswer, -, -, -, -, -, hoffered⟩ | ⟨-, hexhausted⟩ :=
      (hadds ⟨"P1"⟩).2.2 (by decide +kernel)
    case inr => rw [hexhausted] at hcreated; cases hcreated
    rw [hcreated] at hanswer
    obtain rfl : ⟨"My_m"⟩ = style := EditAnswer.created.inj (Except.ok.inj hanswer)
    exact hoffered

/-! ## What a copy looks like -/

/-- A clone that was given away was proposed, and is what the workspace promised. -/
theorem clone_of_created (hs : w.sessions.get? id = some s)
    (hcreated : (w.edit conduct id (.cloneStyle source displayName)).1 = .ok (.created style)) :
    ∃ own p, w.engine.document.definition? source = some own ∧ style.isDefault = false ∧
      p.batch = [.addStyle s.core.member style .paragraph (own.renamed displayName)] ∧
      (w.edit conduct id (.cloneStyle source displayName)).2 =
        (w.promised id p).followUp conduct := by
  have hedited := edited_edit hs (.cloneStyle source displayName)
  generalize w.edit conduct id (.cloneStyle source displayName) = made at hedited hcreated ⊢
  cases hedited with
  | refused cause => cases hcreated
  | idle _ hedit => cases hedit
  | accepted p hp hbatch =>
      have hproposed := s.core.cloneProposed_proposeClone w.engine.replica source displayName
      rw [show s.core.proposeClone w.engine.replica source displayName = .ok p from hp]
        at hproposed
      cases hproposed with
      | proposed own fresh hown hadmissible habsent =>
          obtain rfl : fresh = style := EditAnswer.created.inj (Except.ok.inj hcreated)
          exact ⟨own, _, hown, hadmissible.isDefault_eq_false, rfl, rfl⟩

/-- A clone looks as what its source sets itself does over the default style. It looks like its
source just if nothing shows that the source inherits from its ancestors: no attribute besides those
that identify a style, no property, and no property group. -/
theorem clone_looks_like_source_iff (hquiet : w.Quiet) (hempty : w.engine.pending = [])
    (hs : w.sessions.get? id = some s)
    (hcreated : (w.edit conduct id (.cloneStyle source displayName)).1 = .ok (.created style)) :
    let d := w.engine.document
    let d' := ((w.edit conduct id (.cloneStyle source displayName)).2.flush conduct).engine.document
    ∃ own look look', d.definition? source = some own ∧
      d.inheritedAttributes source true = some look ∧
      d'.inheritedAttributes style true = some look' ∧
      look'.LooksLike (d.defaultStyle.overlay own) ∧
      (look'.LooksLike look ↔
        (∀ key ∉ identityAttributes, ¬ d.Shows source own (·.attributes.get? key)) ∧
          (∀ group key, ¬ d.Shows source own (·.property? group key)) ∧
          ∀ group, ¬ d.Shows source own (·.group? group)) := by
  intro d d'
  obtain ⟨own, p, hown, hdefault, hbatch, hcalled⟩ := clone_of_created hs hcreated
  have hd' : d' = (w.engine.replica.withStyle style
      { definition := own.renamed displayName }).document := by
    show Replica.document _ = _
    rw [hcalled, replica_clone_flushed hquiet hempty hbatch id]
  obtain ⟨look, hlook⟩ : ∃ look, d.inheritedAttributes source true = some look := by
    rw [← Option.ne_none_iff_exists', ne_eq, Document.inheritedAttributes_eq_none_iff,
      ← Document.definition?_eq_none_iff, hown]
    exact Option.some_ne_none own
  have hnode : Document.node? d'.styles style =
      some { definition := own.renamed displayName } := by
    rw [hd']
    simp [Document.node?, Replica.withStyle, Replica.withDocument, hdefault]
  have hlook' : d'.inheritedAttributes style true =
      some (d.defaultStyle.overlay (own.renamed displayName)) := by
    rw [Document.inheritedAttributes_of_orphan hnode rfl, hd']
    rfl
  have hcopy : (d.defaultStyle.overlay (own.renamed displayName)).LooksLike
      (d.defaultStyle.overlay own) :=
    (StyleDefinition.copiedTo_renamed own displayName).looksLike.overlay d.defaultStyle
  refine ⟨own, look, _, hown, hlook, hlook', hcopy, ?_⟩
  rw [hcopy.trans_iff, StyleDefinition.looksLike_iff]
  refine and_congr ?_ (and_congr ?_ ?_)
  · exact forall₂_congr fun key _ =>
      Document.base_look_iff (StyleDefinition.overlays_attribute key) rfl hown hlook
  · exact forall₂_congr fun group key =>
      Document.base_look_iff (StyleDefinition.overlays_property group key) rfl hown hlook
  · exact forall_congr' fun group =>
      Document.base_look_iff (StyleDefinition.overlays_group group) rfl hown hlook

/-- A style without ancestors looks like its clone. -/
theorem clone_of_body_looks_like_it :
    let called := withMargin.edit conduct 0 (.cloneStyle ⟨"Body"⟩ "My")
    ∃ look look', withMargin.engine.document.inheritedAttributes ⟨"Body"⟩ true = some look ∧
      (called.2.flush conduct).engine.document.inheritedAttributes ⟨"My_m"⟩ true = some look' ∧
      look'.LooksLike look := by
  intro called
  obtain ⟨s, hs⟩ := get?_withMargin
  have hcreated : called.1 = .ok (.created ⟨"My_m"⟩) := rfl
  obtain ⟨own, look, look', -, hlook, hlook', -, hiff⟩ := clone_looks_like_source_iff
    (quiet_of_unobserved (by decide +kernel)) (by decide +kernel) hs hcreated
  have halone : Document.ancestor? withMargin.engine.document.styles 1 ⟨"Body"⟩ = none := by
    decide +kernel
  refine ⟨look, look', hlook, hlook', hiff.2 ⟨fun _ _ => ?_, fun _ _ => ?_, fun _ => ?_⟩⟩
  all_goals exact Document.not_shows_of_alone halone

/-- The automatic style has the margin of its parent, and its clone has none. -/
theorem clone_loses_margin :
    let called := withMargin.edit conduct 0 (.cloneStyle ⟨"P1"⟩ "My")
    let d' := (called.2.flush conduct).engine.document
    withMargin.engine.pending = [] ∧ called.1 = .ok (.created ⟨"My_m"⟩) ∧
      ∃ look look', withMargin.engine.document.inheritedAttributes ⟨"P1"⟩ true = some look ∧
        d'.inheritedAttributes ⟨"My_m"⟩ true = some look' ∧
        look.property? "paragraph-properties" "margin" = some "1cm" ∧
        look'.property? "paragraph-properties" "margin" = none ∧ ¬ look'.LooksLike look := by
  intro called d'
  obtain ⟨look, hlook⟩ := Option.isSome_iff_exists.1 (by decide +kernel :
    (withMargin.engine.document.inheritedAttributes ⟨"P1"⟩ true).isSome = true)
  obtain ⟨look', hlook'⟩ := Option.isSome_iff_exists.1 (by decide +kernel :
    (d'.inheritedAttributes ⟨"My_m"⟩ true).isSome = true)
  have hmargin : look.property? "paragraph-properties" "margin" = some "1cm" := by
    have hread : (withMargin.engine.document.inheritedAttributes ⟨"P1"⟩ true).bind
        (·.property? "paragraph-properties" "margin") = some "1cm" := by decide +kernel
    rwa [hlook] at hread
  have hlost : look'.property? "paragraph-properties" "margin" = none := by
    have hread : (d'.inheritedAttributes ⟨"My_m"⟩ true).bind
        (·.property? "paragraph-properties" "margin") = none := by decide +kernel
    rwa [hlook'] at hread
  refine ⟨by decide +kernel, rfl, look, look', hlook, hlook', hmargin, hlost, fun hlike => ?_⟩
  have hsame := (StyleDefinition.looksLike_iff.1 hlike).2.1 "paragraph-properties" "margin"
  rw [hlost, hmargin] at hsame
  cases hsame

end Workspace

end Coedit
