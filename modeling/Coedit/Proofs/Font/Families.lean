import Coedit.Font
import Mathlib.Data.List.TakeWhile

/-!
# Families that a stylesheet declares

A scan reads declarations off a stylesheet from left to right, and goes on behind each one that it
found. What stands between two declarations does not disturb it as long as it does not contain the
keyword: since no part of the keyword is both its beginning and its end, no declaration can begin
in what stands before a keyword and end in it.
-/

namespace Coedit.Font

/-! ## Items without repetitions -/

section Dedupe

variable {α : Type} [DecidableEq α]

theorem nodup_dedupe (l : List α) : (dedupe l).Nodup := by
  induction l with
  | nil => exact List.nodup_nil
  | cons x rest ih => exact List.nodup_cons.2 ⟨by simp, ih.filter _⟩

theorem dedupe_filter (p : α → Bool) (l : List α) : dedupe (l.filter p) = (dedupe l).filter p := by
  induction l with
  | nil => rfl
  | cons x rest ih =>
      by_cases hx : p x = true
      · simp only [List.filter_cons_of_pos hx, dedupe, ih, List.filter_filter, Bool.and_comm]
      · rw [List.filter_cons_of_neg hx, ih, dedupe, List.filter_cons_of_neg hx, List.filter_filter]
        refine List.filter_congr fun y _ => ?_
        by_cases hy : y = x
        · simp [hy, hx]
        · simp [hy]

/-- Of equal items the first one is kept. -/
theorem dedupe_eq_eraseDups (l : List α) : dedupe l = l.eraseDups := by
  induction hlength : l.length using Nat.strong_induction_on generalizing l with
  | _ n ih =>
      cases l with
      | nil => rfl
      | cons x rest =>
          have hshorter : (rest.filter fun y => !y == x).length < n := by
            have hle := List.length_filter_le (fun y => !y == x) rest
            rw [List.length_cons] at hlength
            omega
          rw [List.eraseDups_cons, ← ih _ hshorter _ rfl, dedupe_filter, dedupe]
          congr 2
          funext y
          simp [beq_eq_decide]

end Dedupe

/-! ## Declarations -/

/-- The characters between which a family can stand. -/
inductive Mark where
  | single
  | double

def Mark.char : Mark → Char
  | single => '\''
  | double => '"'

/-- A declaration of a family as it can be written: with any number of spaces on both sides of the
colon, and between marks of one kind, which the family does not contain. -/
structure Declaration where
  before : Nat
  after : Nat
  mark : Mark
  family : List Char
  unmarked : mark.char ∉ family

def keyword : List Char := "font-family".toList

def spaces (n : Nat) : List Char := List.replicate n ' '

def Declaration.text (d : Declaration) : List Char :=
  keyword ++ (spaces d.before ++ ':' :: (spaces d.after ++ d.mark.char ::
    (d.family ++ [d.mark.char])))

theorem Declaration.text_append (d : Declaration) (rest : List Char) :
    d.text ++ rest = keyword ++ (spaces d.before ++ ':' :: (spaces d.after ++ d.mark.char ::
      (d.family ++ d.mark.char :: rest))) := by
  simp [text]

section Reading

variable {s rest family filler : List Char} {quote c : Char} {n : Nat}

theorem stripStart_eq_some_iff {start : List Char} :
    stripStart start s = some rest ↔ s = start ++ rest := by
  unfold stripStart
  constructor
  · intro h
    split at h
    · rename_i hstart
      obtain ⟨t, rfl⟩ := List.isPrefixOf_iff_prefix.1 hstart
      rw [List.drop_left, Option.some.injEq] at h
      rw [h]
    · cases h
  · rintro rfl
    have hstart : start.isPrefixOf (start ++ rest) = true :=
      List.isPrefixOf_iff_prefix.2 (List.prefix_append start rest)
    rw [if_pos hstart, List.drop_left]

theorem skipSpaces_spaces (h : c ≠ ' ') : skipSpaces (spaces n ++ c :: rest) = c :: rest := by
  have hspaces : ∀ d ∈ spaces n, decide (d = ' ') = true := by simp [spaces]
  rw [skipSpaces, List.dropWhile_append_of_pos hspaces]
  exact List.dropWhile_cons_of_neg (by simpa using h)

theorem exists_spaces (s : List Char) : ∃ n, s = spaces n ++ skipSpaces s := by
  refine ⟨(s.takeWhile (· = ' ')).length, ?_⟩
  have hspaces : s.takeWhile (· = ' ') = spaces (s.takeWhile (· = ' ')).length := by
    refine List.eq_replicate_iff.2 ⟨rfl, fun d hd => ?_⟩
    simpa using List.mem_takeWhile_imp hd
  rw [← hspaces]
  exact List.takeWhile_append_dropWhile.symm

theorem quotedBy_eq_some_iff :
    quotedBy quote s = some (family, rest) ↔ s = family ++ quote :: rest ∧ quote ∉ family := by
  have hother : ∀ {t : List Char}, quote ∉ t → ∀ d ∈ t, decide (d ≠ quote) = true := by
    intro t ht d hd
    simpa using fun heq : d = quote => ht (heq ▸ hd)
  unfold quotedBy
  constructor
  · intro h
    split at h
    · cases h
    · rename_i c t hdrop
      cases h
      have hquote : c = quote := by
        have hhead := List.head?_dropWhile_not (fun d => decide (d ≠ quote)) s
        rw [hdrop] at hhead
        simpa using hhead
      refine ⟨?_, fun hmem => by simpa using List.mem_takeWhile_imp hmem⟩
      rw [← hquote, ← hdrop, hquote]
      exact List.takeWhile_append_dropWhile.symm
  · rintro ⟨rfl, hfamily⟩
    rw [List.dropWhile_append_of_pos (hother hfamily),
      List.takeWhile_append_of_pos (hother hfamily)]
    simp

/-- A declaration is read off a text just if the text begins with it. -/
theorem declarationAt?_eq_some_iff :
    declarationAt? s = some (family, rest) ↔
      ∃ d : Declaration, d.family = family ∧ s = d.text ++ rest := by
  unfold declarationAt?
  rw [show "font-family".toList = keyword from rfl]
  constructor
  · intro h
    obtain ⟨t, hstart, h⟩ := Option.bind_eq_some_iff.1 h
    rw [stripStart_eq_some_iff] at hstart
    obtain ⟨before, ht⟩ := exists_spaces t
    split at h
    · rename_i u hcolon
      rw [hcolon] at ht
      obtain ⟨after, hu⟩ := exists_spaces u
      split at h
      · rename_i v hmark
        obtain ⟨rfl, hfamily⟩ := quotedBy_eq_some_iff.1 h
        rw [hmark] at hu
        refine ⟨⟨before, after, .single, family, hfamily⟩, rfl, ?_⟩
        rw [Declaration.text_append, hstart, ht, hu]
        rfl
      · rename_i v hmark
        obtain ⟨rfl, hfamily⟩ := quotedBy_eq_some_iff.1 h
        rw [hmark] at hu
        refine ⟨⟨before, after, .double, family, hfamily⟩, rfl, ?_⟩
        rw [Declaration.text_append, hstart, ht, hu]
        rfl
      · cases h
    · cases h
  · rintro ⟨⟨before, after, mark, family, hfamily⟩, rfl, rfl⟩
    have hquoted : quotedBy mark.char (family ++ mark.char :: rest) = some (family, rest) :=
      quotedBy_eq_some_iff.2 ⟨rfl, hfamily⟩
    rw [Declaration.text_append, stripStart_eq_some_iff.2 rfl, Option.bind_eq_bind,
      Option.bind_some, skipSpaces_spaces (by decide)]
    cases mark with
    | single =>
        simp only [Mark.char]
        rw [skipSpaces_spaces (by decide)]
        exact hquoted
    | double =>
        simp only [Mark.char]
        rw [skipSpaces_spaces (by decide)]
        exact hquoted

theorem declarationAt?_eq_none (h : ¬ keyword <+: s) : declarationAt? s = none := by
  refine Option.eq_none_iff_forall_not_mem.2 fun ⟨family, rest⟩ hsome => h ?_
  obtain ⟨d, -, rfl⟩ := declarationAt?_eq_some_iff.1 hsome
  rw [Declaration.text_append]
  exact List.prefix_append _ _

/-! ## The scan -/

theorem families_text (d : Declaration) (rest : List Char) :
    families (d.text ++ rest) = d.family :: families rest := by
  rw [families]
  split
  · rename_i family rest' h
    rw [declarationAt?_eq_some_iff.2 ⟨d, rfl, rfl⟩] at h
    cases h
    rfl
  · rename_i h
    rw [declarationAt?_eq_some_iff.2 ⟨d, rfl, rfl⟩] at h
    cases h

theorem families_cons (h : ¬ keyword <+: c :: s) : families (c :: s) = families s := by
  rw [families]
  split
  · rename_i hsome
    rw [declarationAt?_eq_none h] at hsome
    cases hsome
  · rfl

theorem families_nil : families [] = [] := by
  rw [families]
  split
  · rename_i hsome
    rw [declarationAt?_eq_none (by decide)] at hsome
    cases hsome
  · rfl

/-- No part of the keyword is both its beginning and its end. -/
theorem keyword_unbordered :
    ∀ k < keyword.length, 0 < k → keyword.drop k ≠ keyword.take (keyword.length - k) := by
  decide +kernel

/-- A keyword that begins in front of another one ends there, too. -/
theorem infix_of_prefix_append (h : keyword <+: filler ++ (keyword ++ rest)) (hne : filler ≠ []) :
    keyword <:+: filler := by
  rcases Nat.lt_or_ge filler.length keyword.length with hshort | hlong
  · have hpositive : 0 < filler.length := List.length_pos_iff.2 hne
    refine absurd ?_ (keyword_unbordered filler.length hshort hpositive)
    have htake := List.prefix_iff_eq_take.1 h
    calc keyword.drop filler.length
        = ((filler ++ (keyword ++ rest)).take keyword.length).drop filler.length := by rw [← htake]
      _ = (keyword ++ rest).take (keyword.length - filler.length) := by
          rw [List.drop_take, List.drop_left]
      _ = keyword.take (keyword.length - filler.length) :=
          List.take_append_of_le_length (Nat.sub_le _ _)
  · exact (List.prefix_of_prefix_length_le h (List.prefix_append _ _) hlong).isInfix

/-- A text without the keyword is passed over, at the end of a stylesheet and in front of a
keyword. -/
theorem families_append (h : ¬ keyword <:+: filler) (hrest : rest = [] ∨ keyword <+: rest) :
    families (filler ++ rest) = families rest := by
  induction filler with
  | nil => rfl
  | cons c filler ih =>
      have hnone : ¬ keyword <+: c :: (filler ++ rest) := by
        intro hprefix
        rcases hrest with rfl | ⟨after, rfl⟩
        · rw [List.append_nil] at hprefix
          exact h hprefix.isInfix
        · exact h (infix_of_prefix_append hprefix (List.cons_ne_nil c filler))
      rw [List.cons_append, families_cons hnone,
        ih fun hrest => h (hrest.trans (List.suffix_cons c filler).isInfix)]

end Reading

/-! ## Stylesheets -/

structure Filler where
  text : List Char
  plain : ¬ keyword <:+: text

/-- Declarations, each behind a filler, and a filler behind them all. -/
def stylesheet (last : Filler) : List (Filler × Declaration) → List Char
  | [] => last.text
  | (filler, d) :: rest => filler.text ++ (d.text ++ stylesheet last rest)

theorem families_stylesheet (last : Filler) (pieces : List (Filler × Declaration)) :
    families (stylesheet last pieces) = pieces.map (·.2.family) := by
  induction pieces with
  | nil =>
      rw [stylesheet, ← List.append_nil last.text, families_append last.plain (.inl rfl),
        families_nil, List.map_nil]
  | cons piece rest ih =>
      obtain ⟨filler, d⟩ := piece
      have hkeyword : keyword <+: d.text ++ stylesheet last rest := by
        rw [Declaration.text_append]
        exact List.prefix_append _ _
      rw [stylesheet, families_append filler.plain (.inr hkeyword), families_text, ih,
        List.map_cons]

/-- The families of a stylesheet are those of its declarations, however these are written and
whatever stands around them, each at its first place only. No stylesheet makes a family available
twice. -/
theorem declared_families_available :
    (∀ (last : Filler) (pieces : List (Filler × Declaration)),
      available (String.ofList (stylesheet last pieces)) =
        (pieces.map fun piece => String.ofList piece.2.family).eraseDups) ∧
    ∀ css, (available css).Nodup := by
  refine ⟨fun last pieces => ?_, fun css => nodup_dedupe _⟩
  rw [available, String.toList_ofList, families_stylesheet, List.map_map, dedupe_eq_eraseDups]
  rfl

/-- A family can look like a declaration, and a filler can end like the beginning of one. -/
theorem families_between_halves_of_keywords :
    available "font-font-family:'font-family: \"a\"' font-family  :  \"b\" font" =
      ["font-family: \"a\"", "b"] := by
  let pieces : List (Filler × Declaration) :=
    [(⟨"font-".toList, by decide +kernel⟩,
        ⟨0, 0, .single, "font-family: \"a\"".toList, by decide +kernel⟩),
      (⟨" ".toList, by decide +kernel⟩, ⟨2, 2, .double, "b".toList, by decide +kernel⟩)]
  have hcss : "font-font-family:'font-family: \"a\"' font-family  :  \"b\" font" =
      String.ofList (stylesheet ⟨" font".toList, by decide +kernel⟩ pieces) := by
    decide +kernel
  have hfamilies : (pieces.map fun piece => String.ofList piece.2.family).eraseDups =
      ["font-family: \"a\"", "b"] := by
    decide +kernel
  rw [hcss, declared_families_available.1, hfamilies]

end Coedit.Font
