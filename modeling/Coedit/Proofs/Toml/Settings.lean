import Coedit.Proofs.Toml.Strings
import Coedit.Toml.Document

/-!
# Settings that come back

A setting is a line with a bare key and a string or a switch. Such lines are read one by one: each
adds its entry to the table that the last header opened, and a header opens an empty one. A document
of such lines is therefore read as the fields that it was written from.
-/

namespace Coedit.Toml

open Coedit.Wire (Value Fields)

/-! ## Values -/

theorem quotedChars_eq_cons (s : List Char) :
    ∃ quote text, quotedChars s = quote :: text ∧ (quote = '"' ∨ quote = '\'') := by
  unfold quotedChars
  split
  all_goals exact ⟨_, _, rfl, by simp⟩

/-- A value that does not begin with a bracket or a brace is a scalar. -/
theorem value_scalar {c : Char} (hbracket : c ≠ '[') (hbrace : c ≠ '\x7b') (depth : Nat)
    (rest : List Char) :
    value depth (c :: rest) = scalar (c :: rest) := by
  cases depth with
  | zero => rfl
  | succ depth =>
      unfold value
      split <;> simp_all

theorem value_quotedChars (depth : Nat) (s rest : List Char) :
    value depth (quotedChars s ++ '\n' :: rest) =
      some (.text (String.ofList s), '\n' :: rest) := by
  obtain ⟨quote, text, heq, hquote⟩ := quotedChars_eq_cons s
  have hscalar : scalar (quotedChars s ++ '\n' :: rest) =
      some (.text (String.ofList s), '\n' :: rest) := by
    rw [scalar, string?_quotedChars]
    rfl
  have hbracket : quote ≠ '[' := by rintro rfl; simp at hquote
  have hbrace : quote ≠ '\x7b' := by rintro rfl; simp at hquote
  rw [heq, List.cons_append] at hscalar ⊢
  rw [value_scalar hbracket hbrace, hscalar]

def flagChars (flag : Bool) : List Char := (if flag then "true" else "false").toList

theorem value_flagChars (depth : Nat) (flag : Bool) (rest : List Char) :
    value depth (flagChars flag ++ '\n' :: rest) = some (.bool flag, '\n' :: rest) := by
  have hword : bareText (flagChars flag ++ '\n' :: rest) = flagChars flag := by
    have hall : (flagChars flag).all isBare = true := by cases flag <;> decide
    have htake : (flagChars flag ++ '\n' :: rest).takeWhile isBare = flagChars flag :=
      takeWhile_exact (List.all_eq_true.1 hall) (by simp [isBare])
    have hdate : afterDate? (flagChars flag) ≠ some [] := by cases flag <;> decide
    unfold bareText
    rw [htake, if_neg hdate]
  have hbare : ofBare? (flagChars flag) = some (.bool flag) := by cases flag <;> rfl
  have hscalar : scalar (flagChars flag ++ '\n' :: rest) = some (.bool flag, '\n' :: rest) := by
    have hstring : string? (flagChars flag ++ '\n' :: rest) = none := by cases flag <;> rfl
    rw [scalar, hstring]
    simp only [hword, hbare, Option.map_some, List.drop_left]
  rw [← hscalar]
  cases flag <;> exact value_scalar (by decide) (by decide) depth _

/-! ## Keys -/

def IsBareKey (key : String) : Prop :=
  key.toList ≠ [] ∧ ∀ c ∈ key.toList, isKeyChar c = true

-- Only the characters of the key are gone through, not all that there are.
instance (key : String) : Decidable (IsBareKey key) :=
  @instDecidableAnd _ _ inferInstance (List.decidableBAll _ _)

theorem isKeyChar_ne {c d : Char} (h : isKeyChar c = true) (hd : isKeyChar d = false) : c ≠ d := by
  rintro rfl
  simp [h] at hd

theorem dropBlanks_of_ne {c : Char} (hblank : c ≠ ' ') (htab : c ≠ '\t') (rest : List Char) :
    dropBlanks (c :: rest) = c :: rest := by
  simp [dropBlanks, hblank, htab]

theorem simpleKey_unquoted {c : Char} {rest : List Char} (h : isKeyChar c = true) :
    simpleKey (c :: rest) = some (String.ofList ((c :: rest).takeWhile isKeyChar),
      (c :: rest).dropWhile isKeyChar) := by
  have hdouble : c ≠ '"' := isKeyChar_ne h (by decide)
  have hsingle : c ≠ '\'' := isKeyChar_ne h (by decide)
  unfold simpleKey
  split
  · simp_all
  · simp_all
  · simp [h]

theorem key_bare {k : String} (h : IsBareKey k) (c : Char) (rest : List Char)
    (hstop : isKeyChar c = false) (hdot : (dropBlanks (c :: rest)).head? ≠ some '.') :
    key (k.toList ++ c :: rest) = some (([], k), dropBlanks (c :: rest)) := by
  obtain ⟨hne, hchars⟩ := h
  obtain ⟨d, ds, hk⟩ := List.exists_cons_of_ne_nil hne
  have hd : isKeyChar d = true := hchars d (by simp [hk])
  have hfront : dropBlanks (d :: (ds ++ c :: rest)) = d :: (ds ++ c :: rest) :=
    dropBlanks_of_ne (isKeyChar_ne hd (by decide)) (isKeyChar_ne hd (by decide)) _
  have hsimple : simpleKey (d :: (ds ++ c :: rest)) = some (k, c :: rest) := by
    rw [simpleKey_unquoted hd, ← List.cons_append, ← hk,
      takeWhile_exact hchars (by simpa using hstop), List.dropWhile_append_of_pos hchars,
      List.dropWhile_cons_of_neg (by simp [hstop]), String.ofList_toList]
  rw [hk, List.cons_append]
  show dottedKey (79 + 1) [] _ = _
  rw [dottedKey, hfront, hsimple]
  simp only [Option.bind_eq_bind, Option.bind_some]
  split
  · rename_i heq
    exact absurd (by rw [heq]; rfl) hdot
  · rfl

/-! ## Lines -/

/-- A line with a key, an equals sign and a value. -/
theorem assignment_setting {k : String} (h : IsBareKey k) {text rest : List Char} {v : Value}
    (hgap : dropBlanks text = text) (hvalue : value maxNesting text = some (v, rest)) :
    assignment (fun s => some (dropBlanks s)) (value maxNesting)
      (k.toList ++ ' ' :: '=' :: ' ' :: text) = some ((([], k), v), rest) := by
  have hkey := key_bare h ' ' ('=' :: ' ' :: text) (by decide) (by simp [dropBlanks])
  have hsign : dropBlanks (' ' :: '=' :: ' ' :: text) = '=' :: ' ' :: text := by simp [dropBlanks]
  have hblank : dropBlanks (' ' :: text) = text := by simpa [dropBlanks] using hgap
  have hagain : dropBlanks ('=' :: ' ' :: text) = '=' :: ' ' :: text := by simp [dropBlanks]
  rw [hsign] at hkey
  simp [assignment, hkey, hagain, hblank, hvalue]

theorem statement_setting {p : Progress} {k : String} (h : IsBareKey k) {text rest : List Char}
    {v : Value} {entries : Entries} (hgap : dropBlanks text = text)
    (hvalue : value maxNesting text = some (v, rest))
    (hinsert : p.entries.insertUnder p.header [] k v = some entries) :
    statement p (k.toList ++ ' ' :: '=' :: ' ' :: text) = some ({ p with entries }, rest) := by
  have hassignment := assignment_setting h hgap hvalue
  obtain ⟨hne, hchars⟩ := h
  obtain ⟨d, ds, hk⟩ := List.exists_cons_of_ne_nil hne
  have hd : isKeyChar d = true := hchars d (by simp [hk])
  have hbracket : d ≠ '[' := isKeyChar_ne hd (by decide)
  rw [hk, List.cons_append] at hassignment ⊢
  unfold statement
  split
  · simp_all
  · simp_all
  · simp [hassignment, hinsert]

theorem statement_header {p : Progress} {k : String} (h : IsBareKey k) (rest : List Char)
    {entries : Entries} (hopen : p.entries.openTable [] k = some entries) :
    statement p ('[' :: (k.toList ++ ']' :: '\n' :: rest)) =
      some ({ header := [k], entries }, '\n' :: rest) := by
  have hkey := key_bare h ']' ('\n' :: rest) (by decide) (by simp [dropBlanks])
  have hstop : dropBlanks (']' :: '\n' :: rest) = ']' :: '\n' :: rest := by simp [dropBlanks]
  obtain ⟨hne, hchars⟩ := h
  obtain ⟨d, ds, hk⟩ := List.exists_cons_of_ne_nil hne
  have hd : isKeyChar d = true := hchars d (by simp [hk])
  have hbracket : d ≠ '[' := isKeyChar_ne hd (by decide)
  rw [hstop, hk, List.cons_append] at hkey
  rw [hk, List.cons_append]
  unfold statement
  split
  · simp_all
  · rename_i heq
    cases heq
    simp [hkey, expect, hopen]
  · simp_all

/-! ## Lines one after another -/

def Leads (p : Progress) (s : List Char) (q : Progress) : Prop :=
  ∀ rest steps, (s ++ rest).length < steps →
    ∃ steps', rest.length < steps' ∧ lines steps p (s ++ rest) = lines steps' q rest

theorem leads_nil (p : Progress) : Leads p [] p := fun _ steps hsteps => ⟨steps, hsteps, rfl⟩

theorem Leads.append {p q r : Progress} {s t : List Char} (hs : Leads p s q) (ht : Leads q t r) :
    Leads p (s ++ t) r := by
  intro rest steps hsteps
  rw [List.append_assoc] at hsteps ⊢
  obtain ⟨middle, hmiddle, hfirst⟩ := hs (t ++ rest) steps hsteps
  obtain ⟨last, hlast, hsecond⟩ := ht rest middle hmiddle
  exact ⟨last, hlast, hfirst.trans hsecond⟩

/-- A line end leads nowhere. -/
theorem leads_blank (p : Progress) : Leads p ['\n'] p := by
  intro rest steps hsteps
  obtain ⟨n, rfl⟩ : ∃ n, steps = n + 1 := Nat.exists_eq_succ_of_ne_zero (by omega)
  refine ⟨n, by simpa using hsteps, ?_⟩
  simp [lines, dropBlanks, endLine?, afterLineEnd?]

/-- A line that is a statement leads to where the statement does. -/
theorem leads_statement {p q : Progress} {c : Char} {s : List Char}
    (hc : c ∉ [' ', '\t', '\n', '\r', '#'])
    (h : ∀ rest, statement p (c :: (s ++ '\n' :: rest)) = some (q, '\n' :: rest)) :
    Leads p (c :: (s ++ ['\n'])) q := by
  intro rest steps hsteps
  obtain ⟨n, rfl⟩ : ∃ n, steps = n + 1 := Nat.exists_eq_succ_of_ne_zero (by omega)
  simp only [List.mem_cons, List.not_mem_nil, or_false, not_or] at hc
  obtain ⟨hblank, htab, hline, hreturn, hmark⟩ := hc
  have hfront := dropBlanks_of_ne hblank htab (s ++ '\n' :: rest)
  have hend : endLine? (c :: (s ++ '\n' :: rest)) = none := by
    unfold endLine?
    rw [hfront]
    split
    · simp_all
    · simp_all
    · exact afterLineEnd?_of_ne hline hreturn _
  refine ⟨n, ?_, ?_⟩
  · simp at hsteps
    omega
  · have hnext : endLine? ('\n' :: rest) = some rest := by
      simp [endLine?, dropBlanks, afterLineEnd?]
    have hstart : c :: (s ++ ['\n']) ++ rest = c :: (s ++ '\n' :: rest) := by simp
    rw [hstart]
    simp [lines, hfront, hend, h rest, hnext]

/-- A text is read as what its lines lead to. -/
theorem read_of_leads {text : String} {q : Progress} (hmark : dropMark text.toList = text.toList)
    (h : Leads {} text.toList q) : read text = some (.object (fieldsOf q.entries)) := by
  obtain ⟨steps, hsteps, hlines⟩ := h [] (text.toList.length + 1) (by simp)
  obtain ⟨n, rfl⟩ : ∃ n, steps = n + 1 := Nat.exists_eq_succ_of_ne_zero (by omega)
  have hdone : lines (n + 1) q [] = some q := by simp [lines, dropBlanks]
  rw [List.append_nil, hdone] at hlines
  simp [read, hmark, hlines]

/-! ## Tables -/

def entriesOf (fields : Fields) : Entries := fields.map fun f => (f.1, .value f.2)

theorem fieldsOf_append (entries entries' : Entries) :
    fieldsOf (entries ++ entries') = fieldsOf entries ++ fieldsOf entries' := by
  induction entries with
  | nil => rfl
  | cons e entries ih => simp [fieldsOf, ih]

theorem fieldsOf_entriesOf (fields : Fields) : fieldsOf (entriesOf fields) = fields := by
  induction fields with
  | nil => rfl
  | cons f fields ih =>
      have hrest : fieldsOf (entriesOf (f :: fields)) =
          (f.1, f.2) :: fieldsOf (entriesOf fields) := rfl
      rw [hrest, ih]

theorem lookup_entriesOf {key : String} {fields : Fields} (h : key ∉ fields.map (·.1)) :
    (entriesOf fields).lookup key = none := by
  refine List.lookup_eq_none_iff.2 fun e he => ?_
  obtain ⟨f, hf, rfl⟩ := List.mem_map.1 he
  have hne : key ≠ f.1 := fun heq => h (heq ▸ List.mem_map_of_mem hf)
  simpa using hne

theorem put_append {key : String} {entries : Entries} (h : entries.lookup key = none) (node : Node)
    (rest : Entries) :
    Entries.put key node (entries ++ rest) = entries ++ Entries.put key node rest := by
  induction entries with
  | nil => rfl
  | cons e entries ih =>
      obtain ⟨k, n⟩ := e
      by_cases hk : key = k
      · simp [hk] at h
      · have hbeq : (key == k) = false := by simpa using hk
        rw [List.lookup_cons, hbeq] at h
        simp [Entries.put, Ne.symm hk, ih h]

/-- An entry with a new key comes last. -/
theorem put_new {key : String} {entries : Entries} (h : entries.lookup key = none) (node : Node) :
    Entries.put key node entries = entries ++ [(key, node)] := by
  simpa [Entries.put] using put_append h node []

/-- An entry that comes last can be replaced. -/
theorem put_last {key : String} {entries : Entries} (h : entries.lookup key = none)
    (node node' : Node) :
    Entries.put key node (entries ++ [(key, node')]) = entries ++ [(key, node)] := by
  simp [put_append h, Entries.put]

theorem lookup_last {key : String} {entries : Entries} (h : entries.lookup key = none)
    (node : Node) : (entries ++ [(key, node)]).lookup key = some node := by
  rw [List.lookup_append, h]
  simp

/-- Where the settings under a header end up: `fill` puts the entries of the table in the place that
it has in the document. -/
structure Filled (header : List String) (fill : Entries → Entries) : Prop where
  insert {entries : Entries} {key : String} (h : entries.lookup key = none) (v : Value) :
    (fill entries).insertUnder header [] key v = some (fill (entries ++ [(key, .value v)]))

/-- Before the first header, settings stand in the document itself. -/
theorem filled_root : Filled [] id where
  insert h v := by simp [Entries.insertUnder, Entries.descend, Entries.insertAt, h, put_new h]

theorem filled_table {key : String} {entries : Entries} (h : entries.lookup key = none) :
    Filled [key] fun table => entries ++ [(key, .table .header table)] where
  insert hnew v := by
    simp [Entries.insertUnder, Entries.descend, Entries.insertAt, hnew, put_new hnew,
      lookup_last h, put_last h]

theorem openTable_new {key : String} {entries : Entries} (h : entries.lookup key = none) :
    entries.openTable [] key = some (entries ++ [(key, .table .header [])]) := by
  simp [Entries.openTable, Entries.descend, h, put_new h]

/-! ## Settings -/

def valueChars : Value → List Char
  | .text s => quotedChars s.toList
  | .bool flag => flagChars flag
  | _ => []

def IsFlat (v : Value) : Prop := (∃ s, v = .text s) ∨ ∃ flag, v = .bool flag

theorem isFlat_text (s : String) : IsFlat (.text s) := Or.inl ⟨s, rfl⟩

theorem isFlat_bool (flag : Bool) : IsFlat (.bool flag) := Or.inr ⟨flag, rfl⟩

structure IsSetting (f : String × Value) : Prop where
  key : IsBareKey f.1
  value : IsFlat f.2

theorem value_valueChars {f : String × Value} (h : IsSetting f) (depth : Nat) (rest : List Char) :
    value depth (valueChars f.2 ++ '\n' :: rest) = some (f.2, '\n' :: rest) := by
  obtain ⟨s, hs⟩ | ⟨flag, hflag⟩ := h.value
  · rw [hs, valueChars, value_quotedChars, String.ofList_toList]
  · rw [hflag, valueChars, value_flagChars]

theorem dropBlanks_valueChars {f : String × Value} (h : IsSetting f) (rest : List Char) :
    dropBlanks (valueChars f.2 ++ rest) = valueChars f.2 ++ rest := by
  obtain ⟨s, hs⟩ | ⟨flag, hflag⟩ := h.value
  · obtain ⟨quote, text, heq, rfl | rfl⟩ := quotedChars_eq_cons s.toList
    all_goals
      rw [hs, valueChars, heq]
      exact dropBlanks_of_ne (by decide) (by decide) _
  · rw [hflag]
    cases flag <;> exact dropBlanks_of_ne (by decide) (by decide) _

def settingChars (f : String × Value) : List Char :=
  f.1.toList ++ ' ' :: '=' :: ' ' :: (valueChars f.2 ++ ['\n'])

theorem leads_setting {header : List String} {fill : Entries → Entries} (hfill : Filled header fill)
    {f : String × Value} (h : IsSetting f) {entries : Entries} (hnew : entries.lookup f.1 = none) :
    Leads { header, entries := fill entries } (settingChars f)
      { header, entries := fill (entries ++ [(f.1, .value f.2)]) } := by
  obtain ⟨d, ds, hk⟩ := List.exists_cons_of_ne_nil h.key.1
  have hd : isKeyChar d = true := h.key.2 d (by simp [hk])
  have hstart : d ∉ [' ', '\t', '\n', '\r', '#'] := by
    intro hmem
    have hothers : [' ', '\t', '\n', '\r', '#'].all (!isKeyChar ·) = true := by decide
    have hother := List.all_eq_true.1 hothers d hmem
    simp [hd] at hother
  have hline : ∀ rest, statement { header, entries := fill entries }
      (d :: (ds ++ ' ' :: '=' :: ' ' :: valueChars f.2 ++ '\n' :: rest)) =
        some ({ header, entries := fill (entries ++ [(f.1, .value f.2)]) }, '\n' :: rest) := by
    intro rest
    have hstatement := statement_setting (p := { header, entries := fill entries }) h.key
      (dropBlanks_valueChars h ('\n' :: rest)) (value_valueChars h maxNesting rest)
      (hfill.insert hnew f.2)
    simpa [hk] using hstatement
  have hleads := leads_statement hstart hline
  simpa [settingChars, hk] using hleads

theorem leads_settings {header : List String} {fill : Entries → Entries}
    (hfill : Filled header fill) (written : Fields) {rest : Fields} (h : ∀ f ∈ rest, IsSetting f)
    (hnodup : ((written ++ rest).map (·.1)).Nodup) :
    Leads { header, entries := fill (entriesOf written) } (rest.flatMap settingChars)
      { header, entries := fill (entriesOf (written ++ rest)) } := by
  induction rest generalizing written with
  | nil => simpa using leads_nil _
  | cons f rest ih =>
      have hnew : f.1 ∉ written.map (·.1) := by
        simp only [List.map_append, List.map_cons] at hnodup
        exact fun hmem => (List.nodup_append.1 hnodup).2.2 _ hmem _ List.mem_cons_self rfl
      have hfirst := leads_setting hfill (h f List.mem_cons_self) (lookup_entriesOf hnew)
      have hentries : entriesOf written ++ [(f.1, .value f.2)] = entriesOf (written ++ [f]) := by
        simp [entriesOf]
      have hrest := ih (written ++ [f]) (fun g hg => h g (List.mem_cons_of_mem _ hg))
        (by simpa using hnodup)
      rw [hentries] at hfirst
      simpa using hfirst.append hrest

theorem leads_header {key : String} (hkey : IsBareKey key) {header : List String}
    {entries : Entries} (hnew : entries.lookup key = none) :
    Leads { header, entries } ('[' :: (key.toList ++ [']', '\n']))
      { header := [key], entries := entries ++ [(key, .table .header [])] } := by
  have hline : ∀ rest,
      statement { header, entries } ('[' :: (key.toList ++ [']'] ++ '\n' :: rest)) =
        some ({ header := [key], entries := entries ++ [(key, .table .header [])] },
          '\n' :: rest) := by
    intro rest
    simpa using statement_header (p := { header, entries }) hkey rest (openTable_new hnew)
  simpa using leads_statement (by decide) hline

/-- A header and the settings under it add a table. -/
theorem leads_table {key : String} (hkey : IsBareKey key) (header : List String) {entries : Entries}
    (hnew : entries.lookup key = none) {fields : Fields} (h : ∀ f ∈ fields, IsSetting f)
    (hnodup : (fields.map (·.1)).Nodup) :
    Leads { header, entries } ('[' :: (key.toList ++ [']', '\n']) ++ fields.flatMap settingChars)
      { header := [key], entries := entries ++ [(key, .table .header (entriesOf fields))] } :=
  (leads_header hkey hnew).append
    (leads_settings (filled_table hnew) [] h hnodup)

end Coedit.Toml
