import Coedit.Proofs.Engine.Geometry
import Coedit.Proofs.Session.Outcome

/-!
# Restyling the selection

A restyling looks at the paragraphs that meet the local selection, submits one operation for each of
them that has another style, and the engine finds each paragraph again by its number. All of it
agrees: after a flush the selected paragraphs have the style and nothing else is different, the
count is that of the paragraphs that changed, and there is nothing left to do.
-/

namespace Coedit

namespace Replica

variable {r : Replica} {member : MemberId} {style : StyleId}

/-- A paragraph and the selection of a member have a position in common. -/
def Selects (r : Replica) (member : MemberId) (span : Span) : Prop :=
  ∃ c, r.cursors.get? member = some c ∧
    ∃ position, span.start ≤ position ∧ position ≤ span.stop ∧
      min c.anchor c.position ≤ position ∧ position ≤ max c.anchor c.position

def meetsSelection (r : Replica) (member : MemberId) (span : Span) : Bool :=
  (r.cursors.get? member).any fun c => span.meets c.selectedRange

theorem meetsSelection_iff {span : Span} (h : span.start ≤ span.stop) :
    r.meetsSelection member span = true ↔ r.Selects member span := by
  unfold meetsSelection Selects
  cases r.cursors.get? member with
  | none => simp
  | some c =>
      have hrange : min c.anchor c.position ≤ max c.anchor c.position := min_le_max
      simpa [Cursor.selectedRange] using Span.meets_iff h hrange

theorem paragraphsInSelection_eq (r : Replica) (member : MemberId) :
    r.paragraphsInSelection member =
      (r.document.spans.filter (r.meetsSelection member)).map (·.info) := by
  unfold paragraphsInSelection meetsSelection Document.paragraphsInRange
  cases r.cursors.get? member <;> simp

/-! ## Applying the operations -/

/-- Where numbers are not repeated, only the paragraph with the number is restyled. -/
theorem restyleFirst_eq_map {paragraph : ParagraphRef} {l : List Paragraph}
    (h : (l.map (·.id)).Nodup) :
    restyleFirst paragraph style l =
      l.map fun p => if p.id = paragraph then { p with style } else p := by
  induction l with
  | nil => rfl
  | cons p rest ih =>
      obtain ⟨hfirst, hrest⟩ := List.nodup_cons.1 h
      by_cases hp : p.id = paragraph
      · have hothers : ∀ q ∈ rest, (if q.id = paragraph then { q with style } else q) = q := by
          intro q hq
          have hne : q.id ≠ paragraph := fun heq =>
            hfirst (List.mem_map.2 ⟨q, hq, heq.trans hp.symm⟩)
          simp [hne]
        simp [restyleFirst, hp, List.map_congr_left hothers]
      · simp [restyleFirst, hp, ih hrest]

theorem restyled_apply (h : r.document.Distinct) (paragraph : ParagraphRef)
    (start : StepPosition) :
    (r.apply (.setParagraphStyle member paragraph start style)).1 =
      r.withDocument { r.document with
        paragraphs := r.document.paragraphs.map fun p =>
          if p.id = paragraph then { p with style } else p } := by
  simp only [apply]
  split
  · rw [restyleFirst_eq_map h]
  · rename_i habsent
    have hothers : ∀ p ∈ r.document.paragraphs,
        (if p.id = paragraph then { p with style } else p) = p := by
      intro p hp
      have hne : p.id ≠ paragraph := fun heq =>
        habsent (List.any_eq_true.2 ⟨p, hp, by simp [heq]⟩)
      simp [hne]
    simp [List.map_congr_left hothers, withDocument]

/-- A batch of restylings restyles the paragraphs that it names. -/
theorem restyled_applyAll (h : r.document.Distinct) (infos : List ParagraphInfo) :
    (r.applyAll (infos.map fun info =>
        .setParagraphStyle member info.paragraph info.start style)).1 =
      r.withDocument { r.document with
        paragraphs := r.document.paragraphs.map fun p =>
          if p.id ∈ infos.map (·.paragraph) then { p with style } else p } := by
  induction infos generalizing r with
  | nil => simp [applyAll, withDocument]
  | cons info rest ih =>
      have hids := ids_apply r (.setParagraphStyle member info.paragraph info.start style)
      have hrest := ih
        (r := (r.apply (.setParagraphStyle member info.paragraph info.start style)).1)
        (by unfold Document.Distinct; rw [hids]; exact h)
      simp only [List.map_cons, applyAll]
      rw [hrest, restyled_apply h]
      simp only [withDocument, List.map_map]
      congr 2
      refine List.map_congr_left fun p _ => ?_
      by_cases hp : p.id = info.paragraph
      · simp [hp]
      · simp [hp]

end Replica

namespace Document

/-- Other paragraphs of the same lengths lie where the old ones did. -/
theorem spansFrom_map {f : Span → Paragraph} (h : ∀ span, (f span).text = span.paragraph.text)
    (start : StepPosition) (paragraphs : List Paragraph) :
    spansFrom start ((spansFrom start paragraphs).map f) =
      (spansFrom start paragraphs).map fun span => { span with paragraph := f span } := by
  induction paragraphs generalizing start with
  | nil => rfl
  | cons p rest ih =>
      have hlength : (f { start, stop := start + p.stepLength, paragraph := p }).stepLength =
          p.stepLength := by simp [Paragraph.stepLength, h]
      simp [spansFrom, hlength, ih]

theorem map_paragraph_spans (d : Document) : d.spans.map (·.paragraph) = d.paragraphs :=
  map_paragraph_spansFrom 0 d.paragraphs

/-- Where numbers are not repeated, a paragraph is among those picked by a test of spans just if its
own span passes. -/
theorem restyle_picked {d : Document} (h : d.Distinct) (picked : Span → Bool) (style : StyleId) :
    (d.paragraphs.map fun p =>
      if p.id ∈ ((d.spans.filter picked).map (·.info)).map (·.paragraph) then { p with style }
      else p) =
      d.spans.map fun span =>
        if picked span then { span.paragraph with style } else span.paragraph := by
  have hnodup : (d.spans.map fun span => span.paragraph.id).Nodup := by
    unfold Distinct at h
    rwa [← map_paragraph_spans, List.map_map] at h
  rw [← map_paragraph_spans, List.map_map]
  refine List.map_congr_left fun span hspan => ?_
  have hiff : span.paragraph.id ∈ ((d.spans.filter picked).map (·.info)).map (·.paragraph) ↔
      picked span = true := by
    simp only [List.map_map, List.mem_map, List.mem_filter, Function.comp, Span.info]
    constructor
    · rintro ⟨other, ⟨hother, hpicked⟩, heq⟩
      rwa [← List.inj_on_of_nodup_map hnodup hother hspan heq]
    · exact fun hpicked => ⟨span, ⟨hspan, hpicked⟩, rfl⟩
  exact if_congr hiff rfl rfl

end Document

namespace Replica

variable {r : Replica} {member : MemberId} {style : StyleId}

def restyle (r : Replica) (member : MemberId) (style : StyleId) (span : Span) : Paragraph :=
  if r.meetsSelection member span then { span.paragraph with style } else span.paragraph

def restyled (r : Replica) (member : MemberId) (style : StyleId) : Replica :=
  r.withDocument { r.document with
    paragraphs := r.document.spans.map (r.restyle member style) }

def restyledSpan (r : Replica) (member : MemberId) (style : StyleId) (span : Span) : Span :=
  { span with paragraph := r.restyle member style span }

theorem style_restyledSpan (r : Replica) (member : MemberId) (style : StyleId) (span : Span) :
    (r.restyledSpan member style span).paragraph.style =
      if r.meetsSelection member span then style else span.paragraph.style := by
  unfold restyledSpan restyle
  split <;> rfl

theorem spans_restyled (r : Replica) (member : MemberId) (style : StyleId) :
    (r.restyled member style).document.spans =
      r.document.spans.map (r.restyledSpan member style) := by
  refine Document.spansFrom_map (fun span => ?_) 0 r.document.paragraphs
  unfold restyle
  split <;> rfl

def outliers (r : Replica) (member : MemberId) (style : StyleId) : List Span :=
  r.document.spans.filter fun span =>
    r.meetsSelection member span && decide (span.paragraph.style ≠ style)

/-- They are the spans whose paragraphs differ afterwards. -/
theorem outliers_eq (r : Replica) (member : MemberId) (style : StyleId) :
    ((r.document.spans.zip (r.restyled member style).document.spans).filter fun s =>
        s.1.paragraph.style ≠ s.2.paragraph.style).map (·.1) = r.outliers member style := by
  have hpairs : r.document.spans.zip (r.document.spans.map (r.restyledSpan member style)) =
      r.document.spans.map fun span => (span, r.restyledSpan member style span) := by
    simpa using List.zip_map' (f := id) (g := r.restyledSpan member style) (l := r.document.spans)
  rw [spans_restyled, hpairs, List.filter_map, List.map_map]
  unfold outliers
  refine (List.map_id _).trans (List.filter_congr fun span _ => ?_)
  by_cases hmeets : r.meetsSelection member span = true <;> simp [style_restyledSpan, hmeets]

theorem restyle_of_outliers (r : Replica) (member : MemberId) (style : StyleId) :
    (r.document.spans.map fun span =>
      if r.meetsSelection member span && decide (span.paragraph.style ≠ style) then
        { span.paragraph with style }
      else span.paragraph) = r.document.spans.map (r.restyle member style) := by
  refine List.map_congr_left fun span _ => ?_
  unfold restyle
  by_cases hstyle : span.paragraph.style = style
  · simp [← hstyle]
  · simp [hstyle]

end Replica

namespace SessionCore

theorem proposeRestyle_eq (s : SessionCore) (r : Replica) (style : StyleId) :
    s.proposeRestyle r style =
      { batch := (r.outliers s.member style).map fun span =>
          .setParagraphStyle s.member span.paragraph.id span.start style
        answer := .restyled (r.outliers s.member style).length } := by
  have hfilter : (r.paragraphsInSelection s.member).filter (·.style ≠ style) =
      (r.outliers s.member style).map (·.info) := by
    rw [Replica.paragraphsInSelection_eq, List.filter_map, List.filter_filter, Replica.outliers]
    congr 2
    funext span
    exact Bool.and_comm _ _
  unfold proposeRestyle
  simp only [hfilter, List.map_map, List.length_map]
  rfl

/-- The engine makes of the batch what was meant. -/
theorem applyBatch_proposeRestyle {r : Replica} (h : r.document.Distinct) (s : SessionCore)
    (style : StyleId) :
    (r.applyBatch (s.proposeRestyle r style).batch).1 = r.restyled s.member style := by
  have hbatch : (s.proposeRestyle r style).batch =
      ((r.outliers s.member style).map (·.info)).map fun info =>
        .setParagraphStyle s.member info.paragraph info.start style := by
    simp [proposeRestyle_eq, Span.info]
  rw [hbatch]
  show (r.applyAll _).1 = _
  rw [Replica.restyled_applyAll h, Replica.outliers, Document.restyle_picked h,
    Replica.restyle_of_outliers, Replica.restyled]

/-- A selection that was restyled has no paragraphs of another style. -/
theorem proposeRestyle_restyled (s : SessionCore) (r : Replica) (style : StyleId) :
    s.proposeRestyle (r.restyled s.member style) style =
      { batch := [], answer := .restyled 0 } := by
  have hnone : (r.restyled s.member style).outliers s.member style = [] := by
    unfold Replica.outliers
    rw [Replica.spans_restyled, List.filter_map, List.map_eq_nil_iff, List.filter_eq_nil_iff]
    intro span _
    have hsame : (r.restyled s.member style).meetsSelection s.member
        (r.restyledSpan s.member style span) = r.meetsSelection s.member span := rfl
    by_cases hmeets : r.meetsSelection s.member span = true <;>
      simp [hsame, hmeets, Replica.style_restyledSpan]
  simp [proposeRestyle_eq, hnone]

end SessionCore

/-- A paragraph before and after a restyling: it lies where it lay, with its number and its text,
and has the style if it was selected. -/
structure Span.Restyled (style : StyleId) (selected : Prop) (span span' : Span) : Prop where
  start : span'.start = span.start
  stop : span'.stop = span.stop
  id : span'.paragraph.id = span.paragraph.id
  text : span'.paragraph.text = span.paragraph.text
  inside : selected → span'.paragraph.style = style
  outside : ¬ selected → span'.paragraph.style = span.paragraph.style

theorem Replica.spans_restyled_restyled (r : Replica) (member : MemberId) (style : StyleId) :
    List.Forall₂ (fun span span' => span.Restyled style (r.Selects member span) span')
      r.document.spans (r.restyled member style).document.spans := by
  rw [spans_restyled, List.forall₂_map_right_iff, List.forall₂_same]
  intro span hspan
  have hselected : r.meetsSelection member span = true ↔ r.Selects member span :=
    meetsSelection_iff (Document.start_le_stop hspan)
  by_cases hmeets : r.meetsSelection member span = true
  · have hyes := hselected.1 hmeets
    constructor <;> simp [restyledSpan, restyle, hmeets, hyes]
  · have hno : ¬ r.Selects member span := fun h => hmeets (hselected.2 h)
    constructor <;> simp [restyledSpan, restyle, hmeets, hno]

namespace Workspace

variable {w : Workspace} {id : Nat} {s : Session} {style : StyleId}

/-- A restyling that finds nothing to do changes nothing. -/
theorem edit_of_no_outliers (hs : w.sessions.get? id = some s)
    (hnone : w.engine.replica.outliers s.core.member style = []) :
    w.edit conduct id (.setParagraphStyle style) = (.ok (.restyled 0), w) := by
  simp [edit, queueEdit, hs, SessionCore.propose, SessionCore.proposeRestyle_eq, hnone]

theorem edit_of_outliers (hopen : w.engine.isOpen = true)
    (hadmits : "SetParagraphStyle" ∉ w.refusals.operations) (hs : w.sessions.get? id = some s)
    (hsome : w.engine.replica.outliers s.core.member style ≠ []) :
    let p := s.core.proposeRestyle w.engine.replica style
    w.edit conduct id (.setParagraphStyle style) =
      (.ok p.answer, { w with engine := Agenda.queued w.engine p.batch }.followUp conduct) := by
  intro p
  have hbatch : p.batch ≠ [] := by
    simpa [p, SessionCore.proposeRestyle_eq] using hsome
  have hproposed : s.core.propose w.engine.replica (.setParagraphStyle style) = .ok p := rfl
  rw [edit_of_admitted hs hopen (fun p' hp' op hop => ?_) conduct, hproposed]
  · simp only [if_neg hbatch]
    rfl
  · obtain rfl := Except.ok.inj (hproposed.symm.trans hp')
    simp only [p, SessionCore.proposeRestyle_eq, List.mem_map] at hop
    obtain ⟨span, -, rfl⟩ := hop
    exact hadmits

/-- What a restyling and a flush come to: the paragraphs are restyled, and a batch was submitted if
there was something to do. -/
theorem restyling_flushed (hquiet : w.Quiet) (hopen : w.engine.isOpen = true)
    (hempty : w.engine.pending = []) (hdistinct : w.engine.document.Distinct)
    (hadmits : "SetParagraphStyle" ∉ w.refusals.operations) (hs : w.sessions.get? id = some s)
    (style : StyleId) :
    let r := w.engine.replica
    let p := s.core.proposeRestyle r style
    let called := w.edit conduct id (.setParagraphStyle style)
    let w' := called.2.flush conduct
    called.1 = .ok (.restyled (r.outliers s.core.member style).length) ∧
      w'.engine = { w.engine with
        replica := r.restyled s.core.member style
        submitted := w.engine.submitted ++ (if p.batch = [] then [] else [p.batch]) } ∧
      ∃ s', w'.sessions.get? id = some s' ∧ s'.core.member = s.core.member := by
  intro r p called w'
  have happlied : (r.applyBatch p.batch).1 = r.restyled s.core.member style :=
    SessionCore.applyBatch_proposeRestyle hdistinct s.core style
  by_cases hnone : r.outliers s.core.member style = []
  · have hcalled : called = (.ok (.restyled 0), w) := edit_of_no_outliers hs hnone
    have hw' : w' = w := by
      show called.2.flush conduct = w
      rw [hcalled, flush_of_nil hempty]
    have hbatch : p.batch = [] := by simp [p, SessionCore.proposeRestyle_eq, hnone]
    refine ⟨by rw [hcalled, hnone]; rfl, ?_, s, by rw [hw', hs], rfl⟩
    rw [hbatch] at happlied ⊢
    rw [hw', ← happlied]
    simp [Replica.applyBatch, Replica.applyAll, r]
  · have hcalled := edit_of_outliers hopen hadmits hs hnone
    have hheard := heard_flush_followUp (w := { w with engine := Agenda.queued w.engine p.batch })
      hquiet
    have hbatch : p.batch ≠ [] := by simpa [p, SessionCore.proposeRestyle_eq] using hnone
    have hw' : w' = ({ w with engine := Agenda.queued w.engine p.batch }.followUp conduct).flush
        conduct := congrArg (fun made => made.2.flush conduct) hcalled
    refine ⟨by rw [show called = _ from hcalled, SessionCore.proposeRestyle_eq], ?_, ?_⟩
    · rw [hw', hheard.engine]
      simp [drained, Agenda.queued, hempty, happlied, hbatch, r]
    · obtain ⟨observers, log, undoManagers, sessions, heq, -, houtline, -⟩ := hheard
      have hsame := houtline id
      rw [hw', heq]
      simp only [hs, Option.map_some, Option.map_eq_some_iff] at hsame
      obtain ⟨s', hs', hout⟩ := hsame
      exact ⟨s', hs', congrArg (fun o => o.core.member) hout⟩

/-- After a restyling and a flush the paragraphs that meet the local selection have the style, and
nothing else is different. The answer counts the paragraphs that changed; these were submitted, once
each, in order and with their places; and there is nothing left for a second call. -/
theorem selection_restyled (hquiet : w.Quiet) (hopen : w.engine.isOpen = true)
    (hempty : w.engine.pending = []) (hdistinct : w.engine.document.Distinct)
    (hadmits : "SetParagraphStyle" ∉ w.refusals.operations) (hs : w.sessions.get? id = some s)
    (style : StyleId) :
    let r := w.engine.replica
    let called := w.edit conduct id (.setParagraphStyle style)
    let w' := called.2.flush conduct
    let changed := ((r.document.spans.zip w'.engine.document.spans).filter fun spans =>
      spans.1.paragraph.style ≠ spans.2.paragraph.style).map (·.1)
    called.1 = .ok (.restyled changed.length) ∧
      List.Forall₂ (fun span span' => span.Restyled style (r.Selects s.core.member span) span')
        r.document.spans w'.engine.document.spans ∧
      w'.engine.replica = { r with document :=
        { r.document with paragraphs := w'.engine.document.paragraphs } } ∧
      (changed = [] → w'.engine.submitted = w.engine.submitted) ∧
      (changed ≠ [] → w'.engine.submitted = w.engine.submitted ++ [changed.map fun span =>
        .setParagraphStyle s.core.member span.paragraph.id span.start style]) ∧
      w'.edit conduct id (.setParagraphStyle style) = (.ok (.restyled 0), w') := by
  intro r called w' changed
  obtain ⟨hanswer, hengine, s', hs', hmember⟩ :=
    restyling_flushed hquiet hopen hempty hdistinct hadmits hs style
  have hreplica : w'.engine.replica = r.restyled s.core.member style := congrArg (·.replica) hengine
  have hdocument : w'.engine.document = (r.restyled s.core.member style).document :=
    congrArg (·.document) hreplica
  have hchanged : changed = r.outliers s.core.member style := by
    simp only [changed, hdocument]
    exact Replica.outliers_eq r s.core.member style
  have hbatch : (s.core.proposeRestyle r style).batch = changed.map fun span =>
      .setParagraphStyle s.core.member span.paragraph.id span.start style := by
    rw [hchanged, SessionCore.proposeRestyle_eq]
  have hsubmitted : w'.engine.submitted = w.engine.submitted ++
      (if (s.core.proposeRestyle r style).batch = [] then []
       else [(s.core.proposeRestyle r style).batch]) := congrArg (·.submitted) hengine
  refine ⟨by rw [hchanged]; exact hanswer, ?_, ?_, fun hnone => ?_, fun hsome => ?_, ?_⟩
  · rw [hdocument]
    exact Replica.spans_restyled_restyled r s.core.member style
  · rw [hdocument, hreplica]
    rfl
  · rw [hsubmitted, if_pos (by simp [hbatch, hnone]), List.append_nil]
  · rw [hsubmitted, if_neg (by simpa [hbatch] using hsome), hbatch]
  · refine edit_of_no_outliers hs' ?_
    rw [hreplica, hmember]
    have hagain := congrArg (·.batch) (SessionCore.proposeRestyle_restyled s.core r style)
    simpa [SessionCore.proposeRestyle_eq] using hagain

/-- Three paragraphs, the second one empty; the member's selection runs backwards from beyond the
end to the end of the first one. -/
def withBackwardSelection : Workspace :=
  let d := Document.build [.paragraph "one" ⟨""⟩, .paragraph "" ⟨"Body"⟩, .paragraph "three" ⟨""⟩]
  let loaded : Workspace := { engine := ({} : Engine EngineListener).openDocument d }
  [Command.newSession { member := ⟨"m"⟩ },
    .engine (.enqueue [.addCursor ⟨"m"⟩, .moveCursor ⟨"m"⟩ 3 99 .range]),
    .engine .flush].foldl (fun w c => (w.execute c).2) loaded

/-- The empty paragraph has the style already; the first paragraph and the last one change. -/
theorem backward_selection_restyled :
    let restyle : Edit := .setParagraphStyle ⟨"Body"⟩
    let called := withBackwardSelection.edit conduct 0 restyle
    let w' := called.2.flush conduct
    called.1 = .ok (.restyled 2) ∧
      w'.engine.submitted = withBackwardSelection.engine.submitted ++
        [[.setParagraphStyle ⟨"m"⟩ 1 0 ⟨"Body"⟩, .setParagraphStyle ⟨"m"⟩ 3 5 ⟨"Body"⟩]] ∧
      w'.edit conduct 0 restyle = (.ok (.restyled 0), w') := by
  obtain ⟨s, hs⟩ : ∃ s, withBackwardSelection.sessions.get? 0 = some s :=
    Option.isSome_iff_exists.1 (by decide +kernel)
  have hquiet : withBackwardSelection.Quiet := quiet_of_unobserved (by decide +kernel)
  have hmember : s.core.member = ⟨"m"⟩ := by
    have h : (withBackwardSelection.sessions.get? 0).map (·.core.member) = some ⟨"m"⟩ := by
      decide +kernel
    simpa [hs] using h
  have hdistinct : withBackwardSelection.engine.document.Distinct := by
    unfold Document.Distinct
    decide +kernel
  intro restyle called w'
  obtain ⟨hanswer, -, -, -, hsubmitted, hagain⟩ :=
    selection_restyled hquiet (by decide +kernel) (by decide +kernel) hdistinct
      (by decide +kernel) hs ⟨"Body"⟩
  have hchanged : ((withBackwardSelection.engine.replica.document.spans.zip
      w'.engine.document.spans).filter fun spans =>
        spans.1.paragraph.style ≠ spans.2.paragraph.style).map (·.1) =
      [⟨0, 3, ⟨1, "one", ⟨""⟩⟩⟩, ⟨5, 10, ⟨3, "three", ⟨""⟩⟩⟩] := by
    decide +kernel
  rw [hchanged] at hanswer hsubmitted
  have hchanges := hsubmitted (by simp)
  simp only [List.map_cons, List.map_nil, hmember] at hchanges
  dsimp only [w', called, restyle]
  exact ⟨hanswer, hchanges, hagain⟩

end Workspace

end Coedit
