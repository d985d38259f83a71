import Coedit.Identifier

/-!
# Names and their identifiers

Every name has one identifier, and reading an identifier gives back its name. An escaped byte
takes four characters, the first of which is no literal, so a reader always knows where it
stands. The empty name is written as `_`, which is too short for an escape.
-/

namespace Coedit.Identifier

/-- What an identifier may start with: an ASCII letter or `_`. -/
def startsIdentifier (c : Char) : Bool := c.isAlpha || c == '_'

/-- What an identifier may hold: ASCII letters and digits, `.`, `-` and `_`. -/
def mayStand (c : Char) : Bool := c.isAlphanum || c == '.' || c == '-' || c == '_'

/-! ## Literal bytes and digits -/

theorem isLetter_iff (b : UInt8) :
    isLetter b = true ↔ 65 ≤ b.toNat ∧ b.toNat ≤ 90 ∨ 97 ≤ b.toNat ∧ b.toNat ≤ 122 := by
  simp [isLetter, UInt8.le_iff_toNat_le]

theorem isLiteral_iff (b : UInt8) : isLiteral b = true ↔
    (65 ≤ b.toNat ∧ b.toNat ≤ 90 ∨ 97 ≤ b.toNat ∧ b.toNat ≤ 122) ∨
      (48 ≤ b.toNat ∧ b.toNat ≤ 57) ∨ b.toNat = 46 ∨ b.toNat = 45 := by
  simp only [isLiteral, isDigit, Bool.or_eq_true, isLetter_iff, beq_iff_eq, Bool.and_eq_true,
    decide_eq_true_eq, UInt8.le_iff_toNat_le, ← UInt8.toNat_inj]
  simp [or_assoc]

/-- A byte that is written as itself is a literal, wherever it stands. -/
theorem isLiteral_of_plain {first : Bool} {b : UInt8}
    (h : (isLetter b || (isLiteral b && !first)) = true) : isLiteral b = true := by
  by_cases hletter : isLetter b = true
  · simp [isLiteral, hletter]
  · simp only [hletter, Bool.false_or, Bool.and_eq_true] at h
    exact h.1

theorem toNat_ofNat_ascii {n : Nat} (h : n < 128) : (Char.ofNat n).toNat = n := by
  have hvalid : n.isValidChar := .inl (by omega)
  have hchar : Char.ofNat n = Char.ofNatAux n hvalid := dif_pos hvalid
  rw [hchar]
  rfl

theorem isAlpha_iff (c : Char) : c.isAlpha = true ↔
    65 ≤ c.toNat ∧ c.toNat ≤ 90 ∨ 97 ≤ c.toNat ∧ c.toNat ≤ 122 := by
  have halpha : c.isAlpha = (c.isUpper || c.isLower) := rfl
  have hupper : c.isUpper = decide (c.val ≥ 'A'.val ∧ c.val ≤ 'Z'.val) := rfl
  have hlower : c.isLower = (decide (c.val ≥ 'a'.val) && decide (c.val ≤ 'z'.val)) := rfl
  simp [halpha, hupper, hlower, UInt32.le_iff_toNat_le]

theorem isDigit_iff (c : Char) : c.isDigit = true ↔ 48 ≤ c.toNat ∧ c.toNat ≤ 57 := by
  simp [Char.isDigit, UInt32.le_iff_toNat_le]

theorem isAlpha_of_isLetter {b : UInt8} (h : isLetter b = true) :
    (Char.ofNat b.toNat).isAlpha = true := by
  rw [isLetter_iff] at h
  have hnat : (Char.ofNat b.toNat).toNat = b.toNat := toNat_ofNat_ascii (by omega)
  rw [isAlpha_iff, hnat]
  exact h

theorem mayStand_of_isLiteral {b : UInt8} (h : isLiteral b = true) :
    mayStand (Char.ofNat b.toNat) = true := by
  rw [isLiteral_iff] at h
  have hnat : (Char.ofNat b.toNat).toNat = b.toNat := toNat_ofNat_ascii (by omega)
  simp only [mayStand, Char.isAlphanum, Bool.or_eq_true, beq_iff_eq, isAlpha_iff, isDigit_iff, hnat]
  rcases h with hletter | hdigit | hdot | hdash
  · exact .inl (.inl (.inl (.inl hletter)))
  · exact .inl (.inl (.inl (.inr hdigit)))
  · exact .inl (.inl (.inr (by rw [hdot])))
  · exact .inl (.inr (by rw [hdash]))

theorem hexValue?_hexDigit {n : Nat} (h : n < 16) : hexValue? (hexDigit n) = some n := by
  have hall : ∀ digit : Fin 16, hexValue? (hexDigit digit) = some digit.val := by decide
  exact hall ⟨n, h⟩

theorem mayStand_hexDigit {n : Nat} (h : n < 16) : mayStand (hexDigit n) = true := by
  have hall : ∀ digit : Fin 16, mayStand (hexDigit digit) = true := by decide
  exact hall ⟨n, h⟩

/-- A byte is made of its two hexadecimal digits. -/
theorem ofNat_digits (b : UInt8) : UInt8.ofNat (16 * (b.toNat / 16) + b.toNat % 16) = b := by
  rw [Nat.div_add_mod]
  exact UInt8.ofNat_toNat

/-! ## Reading what was written -/

theorem bytes?_escape (first : Bool) (b : UInt8) (rest : List Char) :
    bytes? first (escape b ++ rest) = (bytes? false rest).map (b :: ·) := by
  have hbound : b.toNat < 256 := b.toNat_lt
  have hhigh : b.toNat / 16 < 16 := by omega
  have hlow : b.toNat % 16 < 16 := by omega
  show bytes? first ('_' :: hexDigit (b.toNat / 16) :: hexDigit (b.toNat % 16) :: '_' :: rest) = _
  rw [bytes?, if_pos rfl]
  simp only [hexValue?_hexDigit hhigh, hexValue?_hexDigit hlow, ofNat_digits]

theorem ne_mark_of_isLiteral {b : UInt8} (h : isLiteral b = true) : Char.ofNat b.toNat ≠ '_' := by
  have hrange := (isLiteral_iff b).1 h
  have hnat : (Char.ofNat b.toNat).toNat = b.toNat := toNat_ofNat_ascii (by omega)
  intro heq
  have hmark : b.toNat = 95 := hnat.symm.trans (congrArg Char.toNat heq)
  omega

theorem bytes?_literal {first : Bool} {b : UInt8}
    (h : (isLetter b || (isLiteral b && !first)) = true) (rest : List Char) :
    bytes? first (Char.ofNat b.toNat :: rest) = (bytes? false rest).map (b :: ·) := by
  have hliteral := isLiteral_of_plain h
  have hrange := (isLiteral_iff b).1 hliteral
  have hnat : (Char.ofNat b.toNat).toNat = b.toNat := toNat_ofNat_ascii (by omega)
  have hplain := ne_mark_of_isLiteral hliteral
  have hascii : b.toNat < 0x80 := by omega
  have hplace : (!first || isLetter b) = true := by
    cases first <;> simp_all
  rw [bytes?.eq_def]
  simp only [hplain, if_false, hnat, UInt8.ofNat_toNat, hliteral, hascii, hplace, decide_true,
    Bool.and_true, if_true]

/-- A byte is read where it was written: as the first one, or behind it. -/
theorem bytes?_encodeByte (first : Bool) (b : UInt8) (rest : List Char) :
    bytes? first (encodeByte first b ++ rest) = (bytes? false rest).map (b :: ·) := by
  unfold encodeByte
  split
  · rename_i hplain
    exact bytes?_literal hplain rest
  · exact bytes?_escape first b rest

/-- What is read under the rule for the first byte is read anywhere. -/
theorem bytes?_of_first {l : List Char} {bytes : List UInt8} (h : bytes? true l = some bytes) :
    bytes? false l = some bytes := by
  cases l with
  | nil => exact h
  | cons c rest =>
      rw [bytes?.eq_def] at h ⊢
      simp only [Bool.not_true, Bool.false_or, Bool.not_false, Bool.true_or, Bool.and_true] at h ⊢
      split at h
      · rename_i hmark
        rwa [if_pos hmark]
      · rename_i hmark
        rw [if_neg hmark]
        split at h
        · rename_i hletter
          rwa [if_pos (Bool.and_eq_true_iff.1 hletter).1]
        · cases h

theorem bytes?_encodeRest (bytes : List UInt8) :
    bytes? false (encodeRest bytes) = some bytes := by
  induction bytes with
  | nil => rfl
  | cons b rest ih =>
      have hsplit : encodeRest (b :: rest) = encodeByte false b ++ encodeRest rest := rfl
      rw [hsplit, bytes?_encodeByte, ih, Option.map_some]

/-- All bytes but none are read back; the mark of the empty name is no escape. -/
theorem bytes?_encode {bytes : List UInt8} (h : bytes ≠ []) :
    bytes? true (encode bytes) = some bytes := by
  cases bytes with
  | nil => exact absurd rfl h
  | cons b rest =>
      rw [encode, bytes?_encodeByte, bytes?_encodeRest, Option.map_some]

/-! ## Bytes of names -/

theorem ofUtf8?_utf8 (name : String) : ofUtf8? (utf8 name) = some name := by
  show String.fromUTF8? name.toByteArray = some name
  unfold String.fromUTF8?
  rw [dif_pos name.isValidUTF8]
  rfl

theorem utf8_eq_nil {name : String} (h : utf8 name = []) : name = "" := by
  have hread := ofUtf8?_utf8 name
  have hempty : ofUtf8? [] = some "" := ofUtf8?_utf8 ""
  rw [h, hempty] at hread
  exact (Option.some.inj hread).symm

theorem synthesize_ne_mark {name : String} (h : name ≠ "") : synthesize name ≠ "_" := by
  intro hmark
  have hbytes : utf8 name ≠ [] := fun hnil => h (utf8_eq_nil hnil)
  have hread := bytes?_encode hbytes
  have hencoded : encode (utf8 name) = ['_'] := by
    have hlist := congrArg String.toList hmark
    simpa [synthesize] using hlist
  rw [hencoded] at hread
  cases hread

theorem decode_synthesize (name : String) : decode (synthesize name) = some name := by
  by_cases hempty : name = ""
  · subst hempty
    rfl
  · have hbytes : utf8 name ≠ [] := fun hnil => hempty (utf8_eq_nil hnil)
    have hread : (bytes? true (synthesize name).toList).bind ofUtf8? = some name := by
      rw [synthesize, String.toList_ofList, bytes?_encode hbytes]
      exact ofUtf8?_utf8 name
    unfold decode
    rw [if_neg (synthesize_ne_mark hempty), hread]
    exact if_pos rfl

theorem synthesize_of_decode {name id : String} (h : decode id = some name) :
    synthesize name = id := by
  unfold decode at h
  split at h
  · rename_i hmark
    rw [hmark, ← Option.some.inj h]
    rfl
  · split at h
    · split at h
      · rename_i hcanonical
        rw [← Option.some.inj h]
        exact hcanonical
      · cases h
    · cases h

/-! ## The characters of identifiers -/

theorem mayStand_encodeByte {first : Bool} {b : UInt8} {c : Char} (h : c ∈ encodeByte first b) :
    mayStand c = true := by
  have hbound : b.toNat < 256 := b.toNat_lt
  unfold encodeByte at h
  split at h
  · rename_i hplain
    rw [List.mem_singleton.1 h]
    exact mayStand_of_isLiteral (isLiteral_of_plain hplain)
  · simp only [escape, List.mem_cons, List.not_mem_nil, or_false] at h
    rcases h with rfl | rfl | rfl | rfl
    · rfl
    · exact mayStand_hexDigit (by omega)
    · exact mayStand_hexDigit (by omega)
    · rfl

theorem mayStand_encode {bytes : List UInt8} {c : Char} (h : c ∈ encode bytes) :
    mayStand c = true := by
  cases bytes with
  | nil =>
      rw [List.mem_singleton.1 h]
      rfl
  | cons b rest =>
      rcases List.mem_append.1 h with hfirst | hrest
      · exact mayStand_encodeByte hfirst
      · obtain ⟨other, -, hother⟩ := List.mem_flatMap.1 hrest
        exact mayStand_encodeByte hother

theorem head_encode (bytes : List UInt8) :
    ∃ first rest, encode bytes = first :: rest ∧ startsIdentifier first = true := by
  cases bytes with
  | nil => exact ⟨'_', [], rfl, rfl⟩
  | cons b rest =>
      by_cases hletter : isLetter b = true
      · have hplain : encodeByte true b = [Char.ofNat b.toNat] := by simp [encodeByte, hletter]
        refine ⟨Char.ofNat b.toNat, encodeRest rest, by rw [encode, hplain]; rfl, ?_⟩
        simp [startsIdentifier, isAlpha_of_isLetter hletter]
      · have hescaped : encodeByte true b = escape b := by simp [encodeByte, hletter]
        exact ⟨'_', _, by rw [encode, hescaped]; rfl, rfl⟩

/-- Reading and writing identifiers are inverse to each other: what is read is just what was
written. So different names have different identifiers, nothing else is read, and an identifier
is never empty, starts with a letter or `_`, and holds no other characters than it may. -/
theorem decode_eq_some_iff_synthesize :
    (∀ name id, decode id = some name ↔ synthesize name = id) ∧
      (∀ name, decode (synthesize name) = some name) ∧
      (∀ name other, synthesize name = synthesize other → name = other) ∧
      (∀ id, (∀ name, synthesize name ≠ id) → decode id = none) ∧
      ∀ name, ∃ first rest, (synthesize name).toList = first :: rest ∧
        startsIdentifier first = true ∧ ∀ c ∈ first :: rest, mayStand c = true := by
  refine ⟨fun name id => ⟨synthesize_of_decode, ?_⟩, decode_synthesize, ?_, ?_, ?_⟩
  · rintro rfl
    exact decode_synthesize name
  · intro name other hsame
    have hread := decode_synthesize name
    rw [hsame, decode_synthesize] at hread
    exact (Option.some.inj hread).symm
  · intro id hforeign
    cases hread : decode id with
    | none => rfl
    | some name => exact absurd (synthesize_of_decode hread) (hforeign name)
  · intro name
    obtain ⟨first, rest, hencoded, hfirst⟩ := head_encode (utf8 name)
    have hlist : (synthesize name).toList = first :: rest := by
      rw [synthesize, String.toList_ofList, hencoded]
    refine ⟨first, rest, hlist, hfirst, fun c hc => ?_⟩
    rw [← hencoded] at hc
    exact mayStand_encode hc

/-- A digit is escaped where it comes first, and only the written form of a name is read. -/
example : (synthesize "1_", decode "_31__5f_", decode "1", decode "_5F_", decode "_41_") =
    ("_31__5f_", some "1_", none, none, none) := by decide +kernel

end Coedit.Identifier
