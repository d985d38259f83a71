import Coedit.Toml.Scalar
import Mathlib.Data.List.TakeWhile

/-!
# Strings that come back

A string is written in one of four forms, in the plainest that can hold it, and read by looking at
its opening quotes. Whatever the form, the reader finds the string that was written, and stops right
behind it.
-/

namespace Coedit.Toml

/-! ## Escapes -/

theorem hexValue?_upperHex : ∀ n < 16, hexValue? (upperHex n) = some n := by decide

theorem toNat_lt_of_isControl {c : Char} (h : isControl c = true) : c.toNat < 128 := by
  simp only [isControl, Bool.or_eq_true, Bool.and_eq_true, decide_eq_true_eq] at h
  omega

/-- A character that is written by its number is read by its number. -/
theorem unescape?_number {c : Char} (h : c.toNat < 128) (rest : List Char) :
    unescape? ('u' :: '0' :: '0' :: upperHex (c.toNat / 16) :: upperHex (c.toNat % 16) :: rest) =
      some (c, 5) := by
  have hhigh := hexValue?_upperHex (c.toNat / 16) (by omega)
  have hlow := hexValue?_upperHex (c.toNat % 16) (by omega)
  have hzero : hexValue? '0' = some 0 := by decide
  have hnumber : 16 * (c.toNat / 16) + c.toNat % 16 = c.toNat := by omega
  have hvalid : c.toNat.isValidChar := c.valid
  simp [unescape?, codePoint?, hhigh, hlow, hzero, hnumber, ofCodePoint?, hvalid]

/-- What stands behind the backslash of an escape: it is read as the character, and is not the end
of a line. -/
structure Escapes (c : Char) (body : List Char) : Prop where
  read (rest : List Char) : unescape? (body ++ rest) = some (c, body.length)
  inLine (rest : List Char) : afterLineEnd? (dropBlanks (body ++ rest)) = none

theorem escapes_mark {c mark : Char} (h : unescape? [mark] = some (c, 1))
    (hread : ∀ rest, unescape? (mark :: rest) = unescape? [mark])
    (hmark : mark ∉ [' ', '\t', '\n', '\r']) : Escapes c [mark] where
  read rest := (hread rest).trans h
  inLine rest := by
    simp only [List.mem_cons, List.not_mem_nil, not_or] at hmark
    simp [dropBlanks, afterLineEnd?, hmark]

theorem escapes_number {c : Char} (h : c.toNat < 128) :
    Escapes c ['u', '0', '0', upperHex (c.toNat / 16), upperHex (c.toNat % 16)] where
  read rest := unescape?_number h rest
  inLine rest := by simp [dropBlanks, afterLineEnd?]

theorem escapes_quote : Escapes '"' ['"'] :=
  escapes_mark rfl (fun _ => rfl) (by decide)

theorem escapes_escape? {multiline : Bool} {c : Char} {escape : List Char}
    (h : escape? multiline c = some escape) : ∃ body, escape = '\\' :: body ∧ Escapes c body := by
  unfold escape? at h
  split_ifs at h with hbackspace htab hline hinline hfeed hreturn hslash hcontrol
  all_goals
    cases h
    refine ⟨_, rfl, ?_⟩
  · obtain rfl : c = '\x08' := Char.toNat_inj.1 hbackspace
    exact escapes_mark rfl (fun _ => rfl) (by decide)
  · subst htab
    exact escapes_mark rfl (fun _ => rfl) (by decide)
  · subst hline
    exact escapes_mark rfl (fun _ => rfl) (by decide)
  · obtain rfl : c = '\x0c' := Char.toNat_inj.1 hfeed
    exact escapes_mark rfl (fun _ => rfl) (by decide)
  · subst hreturn
    exact escapes_mark rfl (fun _ => rfl) (by decide)
  · subst hslash
    exact escapes_mark rfl (fun _ => rfl) (by decide)
  · exact escapes_number (toNat_lt_of_isControl hcontrol)

structure Plain (multiline : Bool) (c : Char) : Prop where
  notQuote : c ≠ '"'
  notSlash : c ≠ '\\'
  notReturn : c ≠ '\r'
  control : isControl c = true → c = '\n' ∧ multiline = true

theorem plain_of_escape? {multiline : Bool} {c : Char} (hquote : c ≠ '"')
    (h : escape? multiline c = none) : Plain multiline c := by
  unfold escape? at h
  split_ifs at h with hbackspace htab hline hinline hfeed hreturn hslash hcontrol
  · subst hline
    exact ⟨hquote, by decide, by decide, fun _ => ⟨rfl, hinline⟩⟩
  · exact ⟨hquote, hslash, hreturn, fun h => absurd h hcontrol⟩

/-- What becomes of a character: a quote is left alone if there is room for it, anything that cannot
stand as it is gets an escape, and all else is plain. -/
theorem escapeFrom_cons (multiline : Bool) (quotes : Nat) (c : Char) (s : List Char) :
    (c = '"' ∧ multiline = true ∧ quotes < 2 ∧
        escapeFrom multiline quotes (c :: s) = c :: escapeFrom multiline (quotes + 1) s) ∨
      (∃ body, Escapes c body ∧
        escapeFrom multiline quotes (c :: s) = '\\' :: (body ++ escapeFrom multiline 0 s)) ∨
      (Plain multiline c ∧
        escapeFrom multiline quotes (c :: s) = c :: escapeFrom multiline 0 s) := by
  rw [escapeFrom]
  by_cases hquote : c = '"'
  · rw [if_pos hquote]
    by_cases hroom : quotes < if multiline then 2 else 0
    · refine Or.inl ⟨hquote, ?_, ?_, if_pos hroom⟩ <;> cases multiline <;> simp_all
    · refine Or.inr (Or.inl ⟨['"'], hquote ▸ escapes_quote, ?_⟩)
      rw [if_neg hroom]
      rfl
  · rw [if_neg hquote]
    cases hescape : escape? multiline c with
    | some escape =>
        obtain ⟨body, rfl, hbody⟩ := escapes_escape? hescape
        exact Or.inr (Or.inl ⟨body, hbody, rfl⟩)
    | none => exact Or.inr (Or.inr ⟨plain_of_escape? hquote hescape, rfl⟩)

/-! ## Strings on one line -/

@[simp] theorem push_some (c : Char) (text rest : List Char) :
    push c (some (text, rest)) = some (c :: text, rest) := rfl

theorem basicText_escapeFrom (quotes : Nat) (s rest : List Char) :
    basicText (escapeFrom false quotes s ++ '"' :: rest) = some (s, rest) := by
  induction s generalizing quotes with
  | nil =>
      show basicText ('"' :: rest) = _
      rw [basicText]
      rfl
  | cons c s ih =>
      obtain ⟨-, hmultiline, -⟩ | ⟨body, hbody, heq⟩ | ⟨hplain, heq⟩ :=
        escapeFrom_cons false quotes c s
      · cases hmultiline
      · rw [heq, List.cons_append, basicText]
        simp [hbody.read, ih]
      · have hcontrol : isControl c = false := by
          by_contra hyes
          simpa using (hplain.control (by simpa using hyes)).2
        rw [heq, List.cons_append, basicText]
        simp [hplain.notQuote, hplain.notSlash, hcontrol, ih]

theorem literalText_append {s : List Char} (hquote : '\'' ∉ s)
    (hcontrol : ∀ c ∈ s, isControl c = false) (rest : List Char) :
    literalText (s ++ '\'' :: rest) = some (s, rest) := by
  induction s with
  | nil => rfl
  | cons c s ih =>
      obtain ⟨hc, hs⟩ := not_or.1 (mt List.mem_cons.2 hquote)
      have hrest := ih hs fun d hd => hcontrol d (List.mem_cons_of_mem _ hd)
      simp [literalText, Ne.symm hc, hcontrol c, hrest]

/-! ## Quotes within a string of several lines -/

/-- A scanner takes the characters of its kind, up to the first one of another kind. -/
theorem takeWhile_exact {p : Char → Bool} {word rest : List Char} (hword : ∀ c ∈ word, p c = true)
    (hrest : ∀ c, rest.head? = some c → p c = false) : (word ++ rest).takeWhile p = word := by
  have hstop : rest.takeWhile p = [] := by
    cases rest with
    | nil => rfl
    | cons c rest => simp [hrest c rfl]
  rw [List.takeWhile_append_of_pos hword, hstop, List.append_nil]

def quotesAhead (quote : Char) (s : List Char) : Nat := (s.takeWhile (· = quote)).length

@[simp] theorem quotesAhead_nil (quote : Char) : quotesAhead quote [] = 0 := rfl

@[simp] theorem quotesAhead_cons (quote c : Char) (s : List Char) :
    quotesAhead quote (c :: s) = if c = quote then quotesAhead quote s + 1 else 0 := by
  by_cases hc : c = quote <;> simp [quotesAhead, hc]

/-- A text that is nothing but a quote or two is closed at once. -/
theorem closing?_quotes {quote : Char} {s rest : List Char} (hs : ∀ c ∈ s, c = quote)
    (hfew : quotesAhead quote s ≤ 2) (hrest : rest.head? ≠ some quote) :
    closing? quote (s ++ threeOf quote ++ rest) = some (s, rest) := by
  have hlength : s.length ≤ 2 := by
    have hself : s.takeWhile (· = quote) = s :=
      List.takeWhile_eq_self_iff.2 (by simpa using hs)
    rwa [quotesAhead, hself] at hfew
  have hquotes : (s ++ threeOf quote ++ rest).takeWhile (· = quote) = s ++ threeOf quote := by
    refine takeWhile_exact (fun c hc => ?_) fun c hc => ?_
    · rcases List.mem_append.1 hc with hc | hc
      · simp [hs c hc]
      · simpa [threeOf] using hc
    · by_contra hquote
      simp_all
  have htake : (s ++ threeOf quote).take 5 = s ++ threeOf quote :=
    List.take_of_length_le (by simp [threeOf]; omega)
  have hcomm : s ++ threeOf quote = threeOf quote ++ s := by
    have hthree : threeOf quote = List.replicate 3 quote := rfl
    rw [List.eq_replicate_iff.2 ⟨rfl, hs⟩, hthree, List.replicate_append_replicate,
      List.replicate_append_replicate, Nat.add_comm]
  have hdrop : (s ++ threeOf quote).drop 3 = s := by
    rw [hcomm]
    rfl
  unfold closing?
  rw [hquotes, htake, if_pos (by simp [threeOf]), hdrop, List.drop_left]

/-- A text with no more than two quotes at the front, and something behind them, goes on. -/
theorem closing?_text {quote : Char} {s : List Char} (hfew : quotesAhead quote s ≤ 2)
    (hs : ¬ ∀ c ∈ s, c = quote) (rest : List Char) : closing? quote (s ++ rest) = none := by
  unfold quotesAhead at hfew
  have hself : (s.takeWhile (· = quote)).length ≠ s.length := by
    intro hlength
    have hall := (List.takeWhile_prefix (l := s) (· = quote)).eq_of_length hlength
    exact hs (by simpa using List.takeWhile_eq_self_iff.1 hall)
  have hahead : ((s ++ rest).takeWhile (· = quote)).take 5 = s.takeWhile (· = quote) := by
    rw [List.takeWhile_append, if_neg hself]
    exact List.take_of_length_le (by omega)
  unfold closing?
  rw [hahead, if_neg (by omega)]

theorem closing?_of_ne {quote c : Char} (h : c ≠ quote) (rest : List Char) :
    closing? quote (c :: rest) = none := by
  simp [closing?, h]

/-! ## Strings of several lines -/

theorem multilineBasicText_of_closing {s : List Char} {result : List Char × List Char}
    (h : closing? '"' s = some result) : multilineBasicText s = some result := by
  cases s with
  | nil => simp [closing?] at h
  | cons c s => rw [multilineBasicText, h]

theorem multilineBasicText_raw {c : Char} {rest : List Char}
    (hgoes : closing? '"' (c :: rest) = none) (hslash : c ≠ '\\') (hreturn : c ≠ '\r')
    (hcontrol : isControl c = true → c = '\n') :
    multilineBasicText (c :: rest) = push c (multilineBasicText rest) := by
  have hallowed : ¬(isControl c = true ∧ c ≠ '\n') := fun h => h.2 (hcontrol h.1)
  rw [multilineBasicText, hgoes]
  simpa [hslash, hreturn] using fun h h' => (hallowed ⟨h, h'⟩).elim

theorem multilineBasicText_escape {c : Char} {body : List Char} (h : Escapes c body)
    (rest : List Char) :
    multilineBasicText ('\\' :: (body ++ rest)) = push c (multilineBasicText rest) := by
  rw [multilineBasicText, closing?_of_ne (by decide)]
  simp [h.read, h.inLine]

theorem quotesAhead_escapeFrom (quotes : Nat) (h : quotes ≤ 2) (s : List Char) :
    quotes + quotesAhead '"' (escapeFrom true quotes s) ≤ 2 := by
  induction s generalizing quotes with
  | nil => simpa [escapeFrom] using h
  | cons c s ih =>
      obtain ⟨hquote, -, hroom, heq⟩ | ⟨body, -, heq⟩ | ⟨hplain, heq⟩ :=
        escapeFrom_cons true quotes c s
      · have hrest := ih (quotes + 1) (by omega)
        rw [heq, quotesAhead_cons, if_pos hquote]
        omega
      · simpa [heq] using h
      · simpa [heq, hplain.notQuote] using h

/-- Where nothing but quotes was written, they stand for themselves. -/
theorem escapeFrom_quotes {quotes : Nat} {s : List Char}
    (h : ∀ c ∈ escapeFrom true quotes s, c = '"') : escapeFrom true quotes s = s := by
  induction s generalizing quotes with
  | nil => rfl
  | cons c s ih =>
      obtain ⟨-, -, -, heq⟩ | ⟨body, -, heq⟩ | ⟨hplain, heq⟩ := escapeFrom_cons true quotes c s
      · rw [heq] at h ⊢
        rw [ih fun d hd => h d (List.mem_cons_of_mem _ hd)]
      · rw [heq] at h
        exact absurd (h '\\' List.mem_cons_self) (by decide)
      · rw [heq] at h
        exact absurd (h c List.mem_cons_self) hplain.notQuote

theorem multilineBasicText_escapeFrom (quotes : Nat) (h : quotes ≤ 2) (s : List Char)
    {rest : List Char} (hrest : rest.head? ≠ some '"') :
    multilineBasicText (escapeFrom true quotes s ++ threeOf '"' ++ rest) = some (s, rest) := by
  induction s generalizing quotes with
  | nil =>
      exact multilineBasicText_of_closing
        (closing?_quotes (fun _ hc => absurd hc List.not_mem_nil) (Nat.zero_le _) hrest)
  | cons c s ih =>
      have hfew := quotesAhead_escapeFrom quotes h (c :: s)
      by_cases hquotes : ∀ d ∈ escapeFrom true quotes (c :: s), d = '"'
      · have hcloses := closing?_quotes hquotes (by omega) hrest
        rw [multilineBasicText_of_closing hcloses, escapeFrom_quotes hquotes]
      · have hgoes := closing?_text (by omega) hquotes (threeOf '"' ++ rest)
        obtain ⟨hquote, -, hroom, heq⟩ | ⟨body, hbody, heq⟩ | ⟨hplain, heq⟩ :=
          escapeFrom_cons true quotes c s
        · rw [heq, List.cons_append] at hgoes
          have hread := multilineBasicText_raw hgoes (hquote ▸ by decide) (hquote ▸ by decide)
            (hquote ▸ by decide)
          have hstep := ih (quotes + 1) (by omega)
          rw [List.append_assoc] at hstep ⊢
          rw [heq, List.cons_append, hread, hstep, push_some]
        · have hread := multilineBasicText_escape hbody (escapeFrom true 0 s ++ threeOf '"' ++ rest)
          rw [ih 0 (Nat.zero_le _)] at hread
          simpa [heq] using hread
        · rw [heq, List.cons_append] at hgoes
          have hread := multilineBasicText_raw hgoes hplain.notSlash hplain.notReturn
            fun hc => (hplain.control hc).1
          have hstep := ih 0 (Nat.zero_le 2)
          rw [List.append_assoc] at hstep ⊢
          rw [heq, List.cons_append, hread, hstep, push_some]

theorem longestRunFrom_mono {quote : Char} {run run' : Nat} (h : run ≤ run') (s : List Char) :
    longestRunFrom quote run s ≤ longestRunFrom quote run' s := by
  induction s generalizing run run' with
  | nil => exact h
  | cons c s ih =>
      unfold longestRunFrom
      split_ifs
      · exact ih (by omega)
      · omega

theorem longestRun_tail_le (quote c : Char) (s : List Char) :
    longestRun quote s ≤ longestRun quote (c :: s) := by
  unfold longestRun
  rw [longestRunFrom.eq_2]
  split_ifs
  · exact longestRunFrom_mono (Nat.zero_le _) s
  · exact Nat.le_max_right _ _

theorem quotesAhead_le_longestRunFrom (quote : Char) (run : Nat) (s : List Char) :
    run + quotesAhead quote s ≤ longestRunFrom quote run s := by
  induction s generalizing run with
  | nil => exact Nat.le_refl run
  | cons c s ih =>
      by_cases hc : c = quote
      · have hrest := ih (run + 1)
        simp only [longestRunFrom, quotesAhead_cons, if_pos hc]
        omega
      · simp only [longestRunFrom, quotesAhead_cons, if_neg hc]
        omega

theorem quotesAhead_le_longestRun (quote : Char) (s : List Char) :
    quotesAhead quote s ≤ longestRun quote s := by
  simpa [longestRun] using quotesAhead_le_longestRunFrom quote 0 s

theorem not_mem_of_longestRun {quote : Char} {s : List Char} (h : longestRun quote s = 0) :
    quote ∉ s := by
  induction s with
  | nil => exact List.not_mem_nil
  | cons c s ih =>
      have htail := longestRun_tail_le quote c s
      have hahead := quotesAhead_le_longestRun quote (c :: s)
      have hc : c ≠ quote := by
        intro heq
        rw [quotesAhead_cons, if_pos heq] at hahead
        omega
      simp [Ne.symm hc, ih (by omega)]

theorem ne_return_of_control {c : Char} (h : isControl c = true → c = '\n') : c ≠ '\r' := by
  rintro rfl
  exact absurd (h (by decide)) (by decide)

theorem multilineLiteralText_of_closing {s : List Char} {result : List Char × List Char}
    (h : closing? '\'' s = some result) : multilineLiteralText s = some result := by
  cases s with
  | nil => simp [closing?] at h
  | cons c s => simp [multilineLiteralText, h]

theorem multilineLiteralText_raw (c : Char) (rest : List Char)
    (hgoes : closing? '\'' (c :: rest) = none) (hcontrol : isControl c = true → c = '\n') :
    multilineLiteralText (c :: rest) = push c (multilineLiteralText rest) := by
  have hreturn := ne_return_of_control hcontrol
  have hallowed : ¬(isControl c = true ∧ c ≠ '\n') := fun h => h.2 (hcontrol h.1)
  simpa [multilineLiteralText, hgoes, hreturn] using fun h h' => (hallowed ⟨h, h'⟩).elim

theorem multilineLiteralText_append {s : List Char} (hfew : longestRun '\'' s ≤ 2)
    (hcontrol : ∀ c ∈ s, isControl c = true → c = '\n') {rest : List Char}
    (hrest : rest.head? ≠ some '\'') :
    multilineLiteralText (s ++ threeOf '\'' ++ rest) = some (s, rest) := by
  induction s with
  | nil =>
      exact multilineLiteralText_of_closing
        (closing?_quotes (fun _ hc => absurd hc List.not_mem_nil) (Nat.zero_le _) hrest)
  | cons c s ih =>
      have hahead := quotesAhead_le_longestRun '\'' (c :: s)
      have htail := longestRun_tail_le '\'' c s
      by_cases hquotes : ∀ d ∈ c :: s, d = '\''
      · exact multilineLiteralText_of_closing (closing?_quotes hquotes (by omega) hrest)
      · have hgoes := closing?_text (by omega) hquotes (threeOf '\'' ++ rest)
        have hread := multilineLiteralText_raw c (s ++ (threeOf '\'' ++ rest)) hgoes
          (hcontrol c List.mem_cons_self)
        have hstep := ih (by omega) fun d hd => hcontrol d (List.mem_cons_of_mem _ hd)
        rw [List.append_assoc] at hstep ⊢
        rw [List.cons_append, hread, hstep, push_some]

/-! ## Strings in any form -/

theorem literal_of_quotingOf {s : List Char} (h : quotingOf s = .literal) :
    '\'' ∉ s ∧ ∀ c ∈ s, isControl c = false := by
  simp only [quotingOf] at h
  split_ifs at h with hbasic hliteral
  simp only [Bool.and_eq_true, Bool.not_eq_true', List.any_eq_false, decide_eq_true_eq,
    List.contains_eq_mem, decide_eq_false_iff_not] at hliteral
  obtain ⟨⟨hcontrol, hrun⟩, hline⟩ := hliteral
  refine ⟨not_mem_of_longestRun hrun, fun c hc => ?_⟩
  have hne : c ≠ '\n' := fun heq => hline (heq ▸ hc)
  simpa [hne] using hcontrol c hc

theorem multilineLiteral_of_quotingOf {s : List Char} (h : quotingOf s = .multilineLiteral) :
    longestRun '\'' s ≤ 2 ∧ ∀ c ∈ s, isControl c = true → c = '\n' := by
  simp only [quotingOf] at h
  split_ifs at h with hbasic hliteral hmultiline hlines
  simp only [Bool.and_eq_true, Bool.not_eq_true', List.any_eq_false, decide_eq_true_eq,
    not_and, not_not] at hlines
  exact ⟨hlines.2, hlines.1⟩

theorem afterLineEnd?_of_ne {c : Char} (hline : c ≠ '\n') (hreturn : c ≠ '\r') (rest : List Char) :
    afterLineEnd? (c :: rest) = none := by
  unfold afterLineEnd?
  split <;> simp_all

/-- The line end behind the opening quotes is the one that was put there, if any was. -/
theorem dropFirstLineEnd_opening (s text : List Char)
    (h : '\n' ∉ s → afterLineEnd? text = none) : dropFirstLineEnd (opening s ++ text) = text := by
  unfold opening
  split_ifs with hline
  · rfl
  · have hnone := h (by simpa using hline)
    simp [dropFirstLineEnd, hnone]

theorem afterLineEnd?_escapeFrom {s : List Char} (hline : '\n' ∉ s) (quotes : Nat)
    (rest : List Char) : afterLineEnd? (escapeFrom true quotes s ++ '"' :: rest) = none := by
  cases s with
  | nil => rfl
  | cons c s =>
      obtain ⟨hquote, -, -, heq⟩ | ⟨body, -, heq⟩ | ⟨hplain, heq⟩ := escapeFrom_cons true quotes c s
      · rw [heq, hquote]
        rfl
      · rw [heq]
        rfl
      · rw [heq]
        exact afterLineEnd?_of_ne (fun hc => hline (by simp [hc])) hplain.notReturn _

theorem afterLineEnd?_append {s : List Char} (hline : '\n' ∉ s)
    (hcontrol : ∀ c ∈ s, isControl c = true → c = '\n') (rest : List Char) :
    afterLineEnd? (s ++ '\'' :: rest) = none := by
  cases s with
  | nil => rfl
  | cons c s =>
      have hreturn := ne_return_of_control (hcontrol c List.mem_cons_self)
      exact afterLineEnd?_of_ne (fun hc => hline (by simp [hc])) hreturn _

theorem head?_escapeFrom (quotes : Nat) (s : List Char) :
    (escapeFrom false quotes s).head? ≠ some '"' := by
  cases s with
  | nil => simp [escapeFrom]
  | cons c s =>
      obtain ⟨-, hmultiline, -⟩ | ⟨body, -, heq⟩ | ⟨hplain, heq⟩ :=
        escapeFrom_cons false quotes c s
      · cases hmultiline
      · simp [heq]
      · simpa [heq] using hplain.notQuote

theorem string?_basic {text : List Char} (h : ∀ rest, text ≠ '"' :: '"' :: rest) :
    string? ('"' :: text) = some (basicText text) := by
  unfold string?
  split
  · rename_i heq
    cases heq
    exact (h _ rfl).elim
  · rename_i heq
    cases heq
  · rename_i heq
    cases heq
    rfl
  · rename_i heq
    cases heq
  · rename_i hother _
    exact (hother _ rfl).elim

theorem string?_literal {text : List Char} (h : ∀ rest, text ≠ '\'' :: '\'' :: rest) :
    string? ('\'' :: text) = some (literalText text) := by
  unfold string?
  split
  · rename_i heq
    cases heq
  · rename_i heq
    cases heq
    exact (h _ rfl).elim
  · rename_i heq
    cases heq
  · rename_i heq
    cases heq
    rfl
  · rename_i hother
    exact (hother _ rfl).elim

/-- No string is so short, or begins so, that its quotes look like the opening of a longer form. -/
theorem not_opening {quote : Char} {s : List Char} (h : s.head? ≠ some quote)
    (hquote : quote ≠ '\n') (rest rest' : List Char) :
    s ++ quote :: '\n' :: rest ≠ quote :: quote :: rest' := by
  cases s with
  | nil => simp [Ne.symm hquote]
  | cons c s =>
      intro heq
      simp_all

theorem string?_quotedChars (s rest : List Char) :
    string? (quotedChars s ++ '\n' :: rest) = some (some (s, '\n' :: rest)) := by
  unfold quotedChars
  cases hquoting : quotingOf s with
  | basic =>
      have hread := basicText_escapeFrom 0 s ('\n' :: rest)
      have hstring := string?_basic (not_opening (head?_escapeFrom 0 s) (by decide) rest)
      rw [hread] at hstring
      simpa using hstring
  | literal =>
      obtain ⟨hquote, hcontrol⟩ := literal_of_quotingOf hquoting
      have hhead : s.head? ≠ some '\'' := fun h => hquote (List.mem_of_mem_head? h)
      have hstring := string?_literal (not_opening hhead (by decide) rest)
      rw [literalText_append hquote hcontrol] at hstring
      simpa using hstring
  | multilineBasic =>
      have hread : multilineBasicText (escapeFrom true 0 s ++ threeOf '"' ++ '\n' :: rest) = _ :=
        multilineBasicText_escapeFrom 0 (Nat.zero_le 2) s (by simp)
      have hdrop := dropFirstLineEnd_opening s (escapeFrom true 0 s ++ threeOf '"' ++ '\n' :: rest)
        fun hline => by simpa [threeOf] using afterLineEnd?_escapeFrom hline 0 _
      rw [← hdrop] at hread
      simpa [threeOf, string?] using hread
  | multilineLiteral =>
      obtain ⟨hfew, hcontrol⟩ := multilineLiteral_of_quotingOf hquoting
      have hread : multilineLiteralText (s ++ threeOf '\'' ++ '\n' :: rest) = _ :=
        multilineLiteralText_append hfew hcontrol (by simp)
      have hdrop := dropFirstLineEnd_opening s (s ++ threeOf '\'' ++ '\n' :: rest)
        fun hline => by simpa [threeOf] using afterLineEnd?_append hline hcontrol _
      rw [← hdrop] at hread
      simpa [threeOf, string?] using hread

end Coedit.Toml
