import Coedit.Document.Plain
import Coedit.Proofs.Dict
import Mathlib.Data.List.TakeWhile

/-!
# Reading plain text

A document written down line by line, each line ended in either way, is read back as it was: a
paragraph for every line, under the style that stands before it in brackets, and a common style for
every name so used. Whatever the text, there are as many paragraphs as lines, and none has a style
that the document lacks.
-/

namespace Coedit

namespace Text

/-! ## Lines -/

inductive LineEnd where
  | lineFeed
  | returnLineFeed
  deriving DecidableEq, Repr

def LineEnd.text : LineEnd → String
  | lineFeed => "\n"
  | returnLineFeed => "\r\n"

/-- A text that fits on one line: it has no line feed, and no carriage return at its end that would
count as part of the line's end. -/
def OneLine (s : String) : Prop := '\n' ∉ s.toList ∧ s.toList.getLast? ≠ some '\r'

instance (s : String) : Decidable (OneLine s) := inferInstanceAs (Decidable (_ ∧ _))

theorem dropReturn_reverse {line : List Char} (h : line.getLast? ≠ some '\r') :
    dropReturn line.reverse = line.reverse := by
  rw [← List.head?_reverse] at h
  cases hreverse : line.reverse with
  | nil => rfl
  | cons c rest =>
      rw [hreverse, List.head?_cons] at h
      unfold dropReturn
      split
      · rename_i heq
        exact absurd (congrArg some (List.cons.inj heq).1) h
      · rfl

theorem linesFrom_cons {c : Char} (h : c ≠ '\n') (line rest : List Char) :
    linesFrom line (c :: rest) = linesFrom (c :: line) rest := by
  rw [linesFrom]
  exact h

theorem linesFrom_append {l : List Char} (h : '\n' ∉ l) (line rest : List Char) :
    linesFrom line (l ++ rest) = linesFrom (l.reverse ++ line) rest := by
  induction l generalizing line with
  | nil => rfl
  | cons c l ih =>
      rw [List.mem_cons, not_or] at h
      rw [List.cons_append, linesFrom_cons (Ne.symm h.1), ih h.2, List.reverse_cons,
        List.append_assoc, List.singleton_append]

/-- A line is read up to its end. -/
theorem linesFrom_ended {s : String} (h : OneLine s) (e : LineEnd) (rest : List Char) :
    linesFrom [] (s.toList ++ e.text.toList ++ rest) = s.toList :: linesFrom [] rest := by
  obtain ⟨hline, hend⟩ := h
  rw [List.append_assoc, linesFrom_append hline, List.append_nil]
  cases e with
  | lineFeed =>
      show (dropReturn s.toList.reverse).reverse :: linesFrom [] rest = _
      rw [dropReturn_reverse hend, List.reverse_reverse]
  | returnLineFeed =>
      show s.toList.reverse.reverse :: linesFrom [] rest = _
      rw [List.reverse_reverse]

def lineCount (s : List Char) : Nat :=
  s.count '\n' + if s.getLast?.all (· = '\n') then 0 else 1

theorem length_linesFrom {line : List Char} (h : '\n' ∉ line) (s : List Char) :
    (linesFrom line s).length = lineCount (line.reverse ++ s) := by
  induction s generalizing line with
  | nil =>
      have hnone : line.count '\n' = 0 := List.count_eq_zero.2 h
      cases line with
      | nil => rfl
      | cons c line =>
          have hc : c ≠ '\n' := fun heq => h (heq ▸ List.mem_cons_self)
          rw [lineCount, List.append_nil, List.count_reverse, hnone, List.getLast?_reverse]
          simp [linesFrom, hc]
  | cons c rest ih =>
      by_cases hc : c = '\n'
      · subst hc
        have hnone : line.count '\n' = 0 := List.count_eq_zero.2 h
        have hcount : (line.reverse ++ '\n' :: rest).count '\n' = rest.count '\n' + 1 := by
          rw [List.count_append, List.count_reverse, hnone, List.count_cons_self, Nat.zero_add]
        have hlast : (line.reverse ++ '\n' :: rest).getLast?.all (· = '\n') =
            rest.getLast?.all (· = '\n') := by
          rw [List.getLast?_append, List.getLast?_cons]
          cases rest.getLast? <;> simp
        have hrest : (linesFrom [] rest).length = lineCount rest := ih List.not_mem_nil
        rw [linesFrom, List.length_cons, hrest, lineCount, lineCount, hcount, hlast]
        exact Nat.add_right_comm _ _ _
      · rw [linesFrom_cons hc, ih, List.reverse_cons, List.append_assoc, List.singleton_append]
        rw [List.mem_cons, not_or]
        exact ⟨Ne.symm hc, h⟩

theorem length_lines (s : String) : (lines s).length = lineCount s.toList := by
  rw [lines, List.length_map, length_linesFrom List.not_mem_nil, List.reverse_nil, List.nil_append]

/-- Nothing but blanks is cut off. -/
theorem trimChars_eq_nil_iff (s : List Char) : trimChars s = [] ↔ ∀ c ∈ s, isBlank c = true := by
  unfold trimChars
  rw [List.reverse_eq_nil_iff, List.dropWhile_eq_nil_iff]
  simp only [List.mem_reverse]
  constructor
  · intro h c hc
    rw [← List.takeWhile_append_dropWhile (p := isBlank) (l := s)] at hc
    rcases List.mem_append.1 hc with hfront | hback
    · exact List.mem_takeWhile_imp hfront
    · exact h c hback
  · exact fun h c hc => h c ((List.dropWhile_suffix isBlank).subset hc)

end Text

namespace Document

open Text

/-! ## One line -/

/-- A paragraph as plain text has it: under the name of a style, or as it is. -/
inductive PlainParagraph where
  | styled (style body : String)
  | unstyled (line : String)
  deriving DecidableEq, Repr

namespace PlainParagraph

def line : PlainParagraph → String
  | styled style body => "[" ++ style ++ "] " ++ body
  | unstyled line => line

def style? : PlainParagraph → Option String
  | styled style _ => some style
  | unstyled _ => none

def paragraph (id : ParagraphRef) : PlainParagraph → Paragraph
  | styled style body => { id, text := body, style := ⟨style⟩ }
  | unstyled line => { id, text := line, style := .default }

end PlainParagraph

/-- Whether a line begins with something in brackets that is not blank. -/
def BeginsWithName (line : String) : Prop :=
  ∃ name rest, line.toList = '[' :: (name ++ ']' :: rest) ∧ ']' ∉ name ∧
    ∃ c ∈ name, isBlank c = false

/-- Whether a paragraph can be written as plain text. A style's name can be any that has no blanks
around it and does not close the brackets; a line without style must not begin with a name. -/
def PlainParagraph.Writable : PlainParagraph → Prop
  | styled style body =>
    style ≠ "" ∧ trim style = style ∧ ']' ∉ style.toList ∧ '\n' ∉ style.toList ∧ OneLine body
  | unstyled line => OneLine line ∧ ¬ BeginsWithName line

theorem PlainParagraph.Writable.oneLine {p : PlainParagraph} (h : p.Writable) : OneLine p.line := by
  cases p with
  | unstyled line => exact h.1
  | styled style body =>
      obtain ⟨-, -, -, hstyle, hbody, hend⟩ := h
      constructor
      · simp [line, hstyle, hbody]
      · have hlist : (line (styled style body)).toList =
            '[' :: style.toList ++ [']'] ++ ' ' :: body.toList := by simp [line]
        rw [hlist, List.getLast?_append, List.getLast?_cons]
        cases hlast : body.toList.getLast? with
        | none => simp
        | some c =>
            rw [hlast] at hend
            simpa using hend

/-- What stands in front of the first closing bracket, and what follows. -/
theorem cut_at_bracket {name : List Char} (h : ']' ∉ name) (rest : List Char) :
    (name ++ ']' :: rest).takeWhile (· ≠ ']') = name ∧
      (name ++ ']' :: rest).dropWhile (· ≠ ']') = ']' :: rest := by
  have hname : ∀ c ∈ name, decide (c ≠ ']') = true := by
    intro c hc
    rw [decide_eq_true_iff]
    rintro rfl
    exact h hc
  rw [List.takeWhile_append_of_pos hname, List.dropWhile_append_of_pos hname]
  simp

theorem styledLine?_styled {style body : String} (h : (PlainParagraph.styled style body).Writable) :
    styledLine? (PlainParagraph.styled style body).line.toList =
      some (style.toList, body.toList) := by
  obtain ⟨hne, htrim, hbracket, -, -⟩ := h
  obtain ⟨hname, hrest⟩ := cut_at_bracket hbracket (' ' :: body.toList)
  have hlist : (PlainParagraph.styled style body).line.toList =
      '[' :: (style.toList ++ ']' :: ' ' :: body.toList) := by simp [PlainParagraph.line]
  have htrimmed : trimChars style.toList = style.toList := by
    rw [← String.toList_inj, trim, String.toList_ofList] at htrim
    exact htrim
  have hnonempty : style.toList.isEmpty = false := by simpa using hne
  rw [hlist]
  simp only [styledLine?, hname, hrest, htrimmed, hnonempty, Bool.false_eq_true, if_false]

theorem beginsWithName_iff {line : String} :
    BeginsWithName line ↔ (styledLine? line.toList).isSome = true := by
  constructor
  · rintro ⟨name, rest, hline, hbracket, c, hc, hletter⟩
    obtain ⟨hname, hrest⟩ := cut_at_bracket hbracket rest
    have hnonempty : (trimChars name).isEmpty = false := by
      rw [List.isEmpty_eq_false_iff, ne_eq, trimChars_eq_nil_iff]
      intro hblank
      rw [hblank c hc] at hletter
      cases hletter
    rw [hline]
    simp only [styledLine?, hname, hrest, hnonempty, Bool.false_eq_true, if_false,
      Option.isSome_some]
  · unfold styledLine?
    split
    · rename_i rest hline
      split
      · rename_i body hbody
        intro hsome
        have hcut : rest = rest.takeWhile (· ≠ ']') ++ ']' :: body := by
          rw [← hbody, List.takeWhile_append_dropWhile]
        have hbracket : ']' ∉ rest.takeWhile (· ≠ ']') := fun hmem => by
          simpa using List.mem_takeWhile_imp hmem
        refine ⟨_, body, hline.trans (congrArg _ hcut), hbracket, ?_⟩
        by_contra hall
        have hblank : trimChars (rest.takeWhile (· ≠ ']')) = [] := by
          rw [trimChars_eq_nil_iff]
          simpa using hall
        simp only [hblank, List.isEmpty_nil, if_true, Option.isSome_none] at hsome
        cases hsome
      · exact nofun
    · exact nofun

instance (line : String) : Decidable (BeginsWithName line) :=
  decidable_of_iff _ beginsWithName_iff.symm

instance : DecidablePred PlainParagraph.Writable
  | .styled _ _ => inferInstanceAs (Decidable (_ ∧ _ ∧ _ ∧ _ ∧ _))
  | .unstyled _ => inferInstanceAs (Decidable (_ ∧ _))

theorem addLine_styled {style body : String} (h : (PlainParagraph.styled style body).Writable)
    (d : Document) : d.addLine (PlainParagraph.styled style body).line =
      (d.declareStyle style).addParagraph body ⟨style⟩ := by
  simp only [addLine, styledLine?_styled h, String.ofList_toList]

theorem addLine_unstyled {line : String} (h : (PlainParagraph.unstyled line).Writable)
    (d : Document) :
    d.addLine (PlainParagraph.unstyled line).line = d.addParagraph line .default := by
  have hnone : styledLine? line.toList = none := by simpa [beginsWithName_iff] using h.2
  simp only [addLine, PlainParagraph.line, hnone]

/-! ## One line after the other -/

def SelfNamed (d : Document) : Prop :=
  ∀ id s, d.styles.get? id = some s → s = Style.common id.text

/-- Every paragraph has the default style, or a style of the document. -/
def Declared (d : Document) : Prop :=
  ∀ p ∈ d.paragraphs, p.style = .default ∨ d.styles.contains p.style = true

section Reading

variable {d : Document} {ps : List PlainParagraph} {p : PlainParagraph}

theorem paragraphs_declareStyle (d : Document) (name : String) :
    (d.declareStyle name).paragraphs = d.paragraphs := by
  unfold declareStyle
  split <;> rfl

theorem contains_declareStyle (d : Document) (name : String) (id : StyleId) :
    (d.declareStyle name).styles.contains id = true ↔
      id = ⟨name⟩ ∨ d.styles.contains id = true := by
  unfold declareStyle
  split
  · rename_i hdeclared
    exact ⟨.inr, fun h => h.elim (fun heq => heq ▸ hdeclared) fun hold => hold⟩
  · simp only [addCommonStyle, Dict.contains_insert, Bool.or_eq_true, decide_eq_true_eq]
    rw [eq_comm]

theorem SelfNamed.get?_eq_some_iff (h : d.SelfNamed) {id : StyleId} {s : Style} :
    d.styles.get? id = some s ↔ d.styles.contains id = true ∧ s = Style.common id.text := by
  constructor
  · intro hs
    exact ⟨by rw [Dict.contains, hs, Option.isSome_some], h id s hs⟩
  · rintro ⟨hcontains, rfl⟩
    obtain ⟨found, hfound⟩ := Option.isSome_iff_exists.1 hcontains
    rw [hfound, h id found hfound]

theorem SelfNamed.declareStyle (h : d.SelfNamed) (name : String) :
    (d.declareStyle name).SelfNamed := by
  unfold Document.declareStyle
  split
  · exact h
  · exact Dict.forall_insert rfl h

theorem SelfNamed.addLine (h : d.SelfNamed) (line : String) : (d.addLine line).SelfNamed := by
  unfold Document.addLine
  split
  · exact h.declareStyle _
  · exact h

theorem Declared.addLine (h : d.Declared) (line : String) : (d.addLine line).Declared := by
  unfold Document.addLine
  split
  · rename_i name body _
    intro p hp
    simp only [addParagraph, paragraphs_declareStyle, List.mem_append, List.mem_singleton] at hp
    rcases hp with hold | rfl
    · exact (h p hold).imp_right fun hstyle => (contains_declareStyle d _ _).2 (.inr hstyle)
    · exact .inr ((contains_declareStyle d _ _).2 (.inl rfl))
  · intro p hp
    simp only [addParagraph, List.mem_append, List.mem_singleton] at hp
    rcases hp with hold | rfl
    · exact h p hold
    · exact .inl rfl

theorem length_addLine (d : Document) (line : String) :
    (d.addLine line).paragraphs.length = d.paragraphs.length + 1 := by
  unfold addLine
  split <;> simp [addParagraph, paragraphs_declareStyle]

structure ReadFrom (ps : List PlainParagraph) (d : Document) : Prop where
  paragraphs : d.paragraphs = ps.mapIdx fun i p => p.paragraph (i + 1)
  contains : ∀ id, d.styles.contains id = true ↔ ∃ p ∈ ps, p.style? = some id.text
  selfNamed : d.SelfNamed

theorem readFrom_empty : ReadFrom [] {} where
  paragraphs := rfl
  contains _ := by
    simp only [List.not_mem_nil, false_and, exists_false, iff_false]
    exact Bool.false_ne_true
  selfNamed := nofun

theorem ReadFrom.addLine (h : ReadFrom ps d) (hp : p.Writable) :
    ReadFrom (ps ++ [p]) (d.addLine p.line) := by
  have hlength : d.paragraphs.length = ps.length := by rw [h.paragraphs, List.length_mapIdx]
  refine ⟨?_, fun id => ?_, h.selfNamed.addLine p.line⟩
  · rw [List.mapIdx_concat, ← h.paragraphs, ← hlength]
    cases p with
    | styled style body =>
        rw [addLine_styled hp, addParagraph, paragraphs_declareStyle]
        rfl
    | unstyled line =>
        rw [addLine_unstyled hp]
        rfl
  · have hused : (∃ q ∈ ps ++ [p], q.style? = some id.text) ↔
        p.style? = some id.text ∨ d.styles.contains id = true := by
      rw [h.contains id]
      simp only [List.mem_append, List.mem_singleton, or_and_right, exists_or, exists_eq_left]
      rw [or_comm]
    rw [hused]
    cases p with
    | styled style body =>
        rw [addLine_styled hp]
        refine (contains_declareStyle d style id).trans (or_congr_left ?_)
        cases id
        simp [PlainParagraph.style?, eq_comm]
    | unstyled line =>
        rw [addLine_unstyled hp]
        simp [PlainParagraph.style?, addParagraph]

theorem readFrom_lines {ps : List PlainParagraph} (h : ∀ p ∈ ps, p.Writable) :
    ReadFrom ps ((ps.map (·.line)).foldl Document.addLine {}) := by
  -- From the end, since each line adds to the document of those before it.
  induction ps using List.reverseRecOn with
  | nil => exact readFrom_empty
  | append_singleton ps p ih =>
      rw [List.map_append, List.foldl_append]
      exact (ih fun q hq => h q (List.mem_append_left _ hq)).addLine
        (h p (List.mem_append_right _ List.mem_cons_self))

/-! ## Any text -/

theorem length_foldl_addLine (d : Document) (ls : List String) :
    (ls.foldl Document.addLine d).paragraphs.length = d.paragraphs.length + ls.length := by
  induction ls generalizing d with
  | nil => rfl
  | cons line rest ih =>
      rw [List.foldl_cons, ih, length_addLine, List.length_cons, Nat.add_assoc, Nat.add_comm 1]

theorem length_ofText (text : String) : (ofText text).paragraphs.length = (lines text).length :=
  (length_foldl_addLine {} (lines text)).trans (Nat.zero_add _)

theorem declared_ofText (text : String) : (ofText text).Declared := by
  unfold ofText
  suffices h : ∀ d : Document, d.Declared → ((lines text).foldl Document.addLine d).Declared from
    h {} nofun
  induction lines text with
  | nil => exact fun _ h => h
  | cons line rest ih => exact fun d h => ih _ (h.addLine line)

end Reading

/-- Paragraphs written down, each on a line that ends in its own way. -/
def written (rows : List (PlainParagraph × LineEnd)) : String :=
  String.join (rows.map fun row => row.1.line ++ row.2.text)

theorem lines_written {rows : List (PlainParagraph × LineEnd)}
    (h : ∀ row ∈ rows, row.1.Writable) :
    lines (written rows) = (rows.map (·.1)).map (·.line) := by
  unfold lines written
  rw [String.toList_join]
  induction rows with
  | nil => rfl
  | cons row rest ih =>
      have hrow := (h row List.mem_cons_self).oneLine
      have hrest := ih fun other hother => h other (List.mem_cons_of_mem _ hother)
      simp only [List.map_cons, List.flatMap_cons, String.toList_append] at hrest ⊢
      rw [linesFrom_ended hrow, List.map_cons, String.ofList_toList, hrest]

/-- Plain text is read back as it was written down: the paragraphs in their order, numbered from 1,
and just the styles that they have, each one that users see under its identifier, without parent.
Whatever the text, every line is a paragraph, and every paragraph has the default style or one that
the document has. -/
theorem plain_text_read :
    (∀ rows : List (PlainParagraph × LineEnd), (∀ row ∈ rows, row.1.Writable) →
      let d := ofText (written rows)
      d.paragraphs = rows.mapIdx (fun i row => row.1.paragraph (i + 1)) ∧
        ∀ id s, d.styles.get? id = some s ↔
          (∃ row ∈ rows, row.1.style? = some id.text) ∧
            s = { definition := { attributes := Dict.empty.insert displayNameKey id.text }
                  parent := none
                  automatic := false }) ∧
      ∀ text, (ofText text).paragraphs.length = (lines text).length ∧
        (lines text).length = lineCount text.toList ∧ (ofText text).Declared := by
  refine ⟨fun rows h => ?_, fun text => ⟨length_ofText text, length_lines text,
    declared_ofText text⟩⟩
  have hread : ReadFrom (rows.map (·.1)) (ofText (written rows)) := by
    have hwritable : ∀ p ∈ rows.map (·.1), p.Writable := by simpa using h
    unfold ofText
    rw [lines_written h]
    exact readFrom_lines hwritable
  refine ⟨hread.paragraphs.trans (List.ext_getElem? fun i => ?_), fun id s => ?_⟩
  · simp only [List.getElem?_mapIdx, List.getElem?_map, Option.map_map]
    rfl
  · rw [hread.selfNamed.get?_eq_some_iff, hread.contains]
    refine and_congr_left fun _ => ?_
    simp only [List.mem_map, exists_exists_and_eq_and]

/-- Brackets that are blank, left open, empty of text behind them, or part of the text. -/
def bracketed : List (PlainParagraph × LineEnd) :=
  [(.styled "Heading 1" " [x] two", .returnLineFeed), (.unstyled "[ ] no name", .lineFeed),
    (.unstyled "[open", .returnLineFeed), (.styled "Heading 1" "", .lineFeed),
    (.unstyled "", .lineFeed)]

/-- All of them are read back, and one style is declared. -/
theorem bracketed_read_back :
    (∀ row ∈ bracketed, row.1.Writable) ∧
      written bracketed = "[Heading 1]  [x] two\r\n[ ] no name\n[open\r\n[Heading 1] \n\n" ∧
      (ofText (written bracketed)).paragraphs =
        [⟨1, " [x] two", ⟨"Heading 1"⟩⟩, ⟨2, "[ ] no name", .default⟩, ⟨3, "[open", .default⟩,
          ⟨4, "", ⟨"Heading 1"⟩⟩, ⟨5, "", .default⟩] ∧
      (ofText (written bracketed)).styles.get? ⟨"Heading 1"⟩ = some (.common "Heading 1") := by
  have hwritable : ∀ row ∈ bracketed, row.1.Writable := by decide +kernel
  obtain ⟨hparagraphs, hstyles⟩ := plain_text_read.1 bracketed hwritable
  refine ⟨hwritable, by decide +kernel, hparagraphs, (hstyles _ _).2 ⟨?_, rfl⟩⟩
  exact ⟨(.styled "Heading 1" "", .lineFeed), by decide, rfl⟩

end Document

end Coedit
