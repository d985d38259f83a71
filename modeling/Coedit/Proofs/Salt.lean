import Coedit.Proofs.Codec

/-!
# Names, numbers and salts

An identifier that is given away is a display name, perhaps a number, and the salt of the member
who asked for it, joined by `_`. Escaped bytes stand between such marks too, so a number of two
digits looks like an escaped byte. That is the only confusion: requests of two members come to
the same identifier just if the number of each reads as an escaped byte of the other (`id_eq_iff`).
-/

namespace Coedit.Identifier

/-! ## Bytes that follow a name -/

/-- A character is written as one ASCII byte, or its second byte is none. -/
theorem utf8EncodeChar_cases (c : Char) :
    (∃ b, String.utf8EncodeChar c = [b] ∧ b.toNat < 128) ∨
      ∃ b b' rest, String.utf8EncodeChar c = b :: b' :: rest ∧ 128 ≤ b'.toNat := by
  have hsecond : ∀ b : UInt8, 128 ≤ (b ||| 0x80).toNat := fun b => by
    rw [UInt8.toNat_or]
    exact Nat.right_le_or
  have hpos := c.utf8Size_pos
  have hfour := c.utf8Size_le_four
  obtain hsize | hsize | hsize | hsize :
      c.utf8Size = 1 ∨ c.utf8Size = 2 ∨ c.utf8Size = 3 ∨ c.utf8Size = 4 := by omega
  · refine .inl ⟨_, String.utf8EncodeChar_eq_singleton hsize, ?_⟩
    have hval := Char.utf8Size_eq_one_iff.1 hsize
    rw [UInt32.le_iff_toNat_le] at hval
    have hnat : c.val.toUInt8.toNat = c.val.toNat % 256 := rfl
    simp only [UInt32.reduceToNat] at hval
    omega
  · exact .inr ⟨_, _, _, String.utf8EncodeChar_eq_cons_cons hsize, hsecond _⟩
  · exact .inr ⟨_, _, _, String.utf8EncodeChar_eq_cons_cons_cons hsize, hsecond _⟩
  · exact .inr ⟨_, _, _, String.utf8EncodeChar_eq_cons_cons_cons_cons hsize, hsecond _⟩

theorem utf8_eq_flatMap (name : String) :
    utf8 name = name.toList.flatMap String.utf8EncodeChar := by
  have hbytes : name.toByteArray = (name.toList.flatMap String.utf8EncodeChar).toByteArray :=
    String.utf8Encode_toList.symm
  unfold utf8
  rw [show name.toUTF8 = name.toByteArray from rfl, hbytes]
  simp

/-- What follows the bytes of one name in those of another are the bytes of characters. -/
theorem chars_of_utf8_append {name other : String} {rest : List UInt8}
    (h : utf8 other = utf8 name ++ rest) :
    ∃ chars : List Char, rest = chars.flatMap String.utf8EncodeChar := by
  have hbytes : name.toList.utf8Encode ++ rest.toByteArray = other.toList.utf8Encode := by
    rw [utf8_eq_flatMap, utf8_eq_flatMap] at h
    unfold List.utf8Encode
    rw [h, List.toByteArray_append]
  obtain ⟨chars, hchars⟩ := List.isPrefix_of_utf8Encode_append_eq_utf8Encode _ hbytes
  refine ⟨chars, ?_⟩
  rw [utf8_eq_flatMap, utf8_eq_flatMap, ← hchars, List.flatMap_append] at h
  exact (List.append_cancel_left h).symm

/-- A byte beyond ASCII that follows a name is itself followed by such a byte. -/
theorem next_of_utf8_append {name other : String} {b : UInt8} {rest : List UInt8}
    (h : utf8 other = utf8 name ++ b :: rest) (hb : 128 ≤ b.toNat) :
    ∃ b' rest', rest = b' :: rest' ∧ 128 ≤ b'.toNat := by
  obtain ⟨chars, hchars⟩ := chars_of_utf8_append h
  cases chars with
  | nil => cases hchars
  | cons c more =>
      rw [List.flatMap_cons] at hchars
      obtain ⟨single, hsingle, hascii⟩ | ⟨first, second, others, hmany, hsecond⟩ :=
        utf8EncodeChar_cases c
      · rw [hsingle] at hchars
        obtain ⟨rfl, -⟩ := List.cons.inj hchars
        omega
      · rw [hmany] at hchars
        obtain ⟨-, hrest⟩ := List.cons.inj hchars
        exact ⟨second, _, hrest, hsecond⟩

/-! ## Marks -/

theorem hexValue?_mark : hexValue? '_' = none := by decide

/-- Where a mark is read, an escape is read. -/
theorem escape_of_mark {first : Bool} {l : List Char} {bytes : List UInt8}
    (h : bytes? first ('_' :: l) = some bytes) :
    ∃ hi lo rest bytes', l = hi :: lo :: '_' :: rest ∧ hi ≠ '_' ∧ lo ≠ '_' ∧
      bytes? false rest = some bytes' := by
  rw [bytes?.eq_def] at h
  simp only [if_true] at h
  split at h
  · rename_i hi lo rest
    split at h
    · rename_i high low hhigh hlow
      obtain ⟨bytes', hrest, -⟩ := Option.map_eq_some_iff.1 h
      refine ⟨hi, lo, rest, bytes', rfl, ?_, ?_, hrest⟩
      · rintro rfl
        rw [hexValue?_mark] at hhigh
        cases hhigh
      · rintro rfl
        rw [hexValue?_mark] at hlow
        cases hlow
    · cases h
  · cases h

theorem tail_of_literal {first : Bool} {c : Char} {l : List Char} {bytes : List UInt8}
    (hc : c ≠ '_') (h : bytes? first (c :: l) = some bytes) :
    ∃ bytes', bytes? false l = some bytes' := by
  rw [bytes?.eq_def] at h
  simp only [hc, if_false] at h
  split at h
  · obtain ⟨bytes', hrest, -⟩ := Option.map_eq_some_iff.1 h
    exact ⟨bytes', hrest⟩
  · cases h

/-- Marks come in pairs. -/
theorem even_marks {first : Bool} {l : List Char} {bytes : List UInt8}
    (h : bytes? first l = some bytes) : l.count '_' % 2 = 0 := by
  induction hn : l.length using Nat.strongRecOn generalizing first l bytes with
  | ind n ih =>
      cases l with
      | nil => rfl
      | cons c rest =>
          by_cases hc : c = '_'
          · subst hc
            obtain ⟨hi, lo, more, bytes', rfl, hhi, hlo, hmore⟩ := escape_of_mark h
            have heven := ih more.length (by simp only [List.length_cons] at hn; omega) hmore rfl
            simp [hhi, hlo]
            omega
          · obtain ⟨bytes', hrest⟩ := tail_of_literal hc h
            have heven := ih rest.length (by simp only [List.length_cons] at hn; omega) hrest rfl
            simpa [List.count_cons, hc] using heven

/-- No two marks follow characters that are none. -/
theorem unread_of_marks {first : Bool} {l rest : List Char} (h : '_' ∉ l) :
    bytes? first (l ++ '_' :: '_' :: rest) = none := by
  rw [Option.eq_none_iff_forall_ne_some]
  intro bytes hread
  induction l generalizing first bytes with
  | nil =>
      obtain ⟨hi, lo, more, -, hsplit, hhi, -⟩ := escape_of_mark hread
      exact hhi (List.cons.inj hsplit).1.symm
  | cons c l ih =>
      rw [List.mem_cons, not_or] at h
      obtain ⟨bytes', hrest⟩ := tail_of_literal (Ne.symm h.1) hread
      exact ih h.2 bytes' hrest

/-! ## Reading on after a name -/

theorem bytes?_encodeRest_append (bytes : List UInt8) (l : List Char) :
    bytes? false (encodeRest bytes ++ l) = (bytes? false l).map (bytes ++ ·) := by
  induction bytes with
  | nil =>
      show bytes? false l = (bytes? false l).map fun more => more
      rw [Option.map_id']
  | cons b rest ih =>
      have hsplit : encodeRest (b :: rest) = encodeByte false b ++ encodeRest rest := rfl
      rw [hsplit, List.append_assoc, bytes?_encodeByte, ih, Option.map_map]
      rfl

theorem bytes?_encode_append {bytes : List UInt8} (h : bytes ≠ []) (l : List Char) :
    bytes? true (encode bytes ++ l) = (bytes? false l).map (bytes ++ ·) := by
  cases bytes with
  | nil => exact absurd rfl h
  | cons b rest =>
      rw [encode, List.append_assoc, bytes?_encodeByte, bytes?_encodeRest_append, Option.map_map]
      rfl

theorem encode_append {bytes : List UInt8} (h : bytes ≠ []) (more : List UInt8) :
    encode (bytes ++ more) = encode bytes ++ encodeRest more := by
  cases bytes with
  | nil => exact absurd rfl h
  | cons b rest =>
      rw [List.cons_append, encode, encode, encodeRest, encodeRest, encodeRest, List.flatMap_append,
        List.append_assoc]

theorem encode_ne_nil (bytes : List UInt8) : encode bytes ≠ [] := by
  obtain ⟨first, rest, hencoded, -⟩ := head_encode bytes
  rw [hencoded]
  exact List.cons_ne_nil _ _

/-- A mark that follows a name within another one begins an escape. -/
theorem escape_of_encode_append {bytes bytes' : List UInt8} {l : List Char}
    (h : encode bytes' = encode bytes ++ '_' :: l) :
    ∃ b tail, bytes' = bytes ++ b :: tail ∧ '_' :: l = escape b ++ encodeRest tail := by
  have hbytes' : bytes' ≠ [] := by
    rintro rfl
    have hlength := congrArg List.length h
    have hpos := List.length_pos_iff.2 (encode_ne_nil bytes)
    rw [List.length_append, List.length_cons, encode, List.length_singleton] at hlength
    omega
  have hread := bytes?_encode hbytes'
  have hbytes : bytes ≠ [] := by
    rintro rfl
    rw [h, show encode [] ++ '_' :: l = [] ++ '_' :: '_' :: l from rfl,
      unread_of_marks List.not_mem_nil] at hread
    cases hread
  rw [h, bytes?_encode_append hbytes] at hread
  obtain ⟨more, hmore, rfl⟩ := Option.map_eq_some_iff.1 hread
  rw [encode_append hbytes, List.append_cancel_left_eq] at h
  cases more with
  | nil => cases h
  | cons b tail =>
      refine ⟨b, tail, rfl, ?_⟩
      rw [← h, show encodeRest (b :: tail) = encodeByte false b ++ encodeRest tail from rfl]
      unfold encodeByte
      split
      · rename_i hplain
        have hhead : encodeRest (b :: tail) = Char.ofNat b.toNat :: encodeRest tail := by
          rw [show encodeRest (b :: tail) = encodeByte false b ++ encodeRest tail from rfl,
            encodeByte, if_pos hplain]
          rfl
        rw [hhead] at h
        exact absurd (List.cons.inj h).1 (ne_mark_of_isLiteral (isLiteral_of_plain hplain))
      · rfl

/-! ## Numbers -/

/-- Only numbers of two digits are as long as an escaped byte. -/
theorem two_digits {n : Nat} {hi lo : Char} (h : Nat.toDigits 10 n = [hi, lo]) :
    10 ≤ n ∧ n < 100 := by
  have hshort := Nat.length_toDigits_le_iff (n := n) (k := 1) (show 1 < 10 by omega) (by omega)
  have hlong := Nat.length_toDigits_le_iff (n := n) (k := 2) (show 1 < 10 by omega) (by omega)
  rw [h, List.length_cons, List.length_cons, List.length_nil] at hshort hlong
  omega

/-- What stands before the first mark, and what stands behind it. -/
theorem split_at_mark {l l' rest rest' : List Char} (hl : '_' ∉ l) (hl' : '_' ∉ l')
    (h : l ++ '_' :: rest = l' ++ '_' :: rest') : l = l' ∧ rest = rest' := by
  induction l generalizing l' with
  | nil =>
      cases l' with
      | nil => exact ⟨rfl, (List.cons.inj h).2⟩
      | cons c more => exact absurd (List.cons.inj h).1 fun heq => hl' (heq ▸ List.mem_cons_self)
  | cons c l ih =>
      cases l' with
      | nil => exact absurd (List.cons.inj h).1 fun heq => hl (heq ▸ List.mem_cons_self)
      | cons c' more =>
          rw [List.mem_cons, not_or] at hl hl'
          obtain ⟨rfl, htail⟩ := List.cons.inj h
          obtain ⟨rfl, hrest⟩ := ih hl.2 hl'.2 htail
          exact ⟨rfl, hrest⟩

/-! ## Identifiers that are given away -/

/-- A request for an identifier: a display name, the member who asks, and the attempt that is
free. -/
structure Request where
  name : String
  member : String
  attempt : Nat
  deriving DecidableEq, Repr

namespace Request

def id (x : Request) : String :=
  Identifier.attempt (synthesize x.name) (synthesize x.member) x.attempt

def ending (x : Request) : List Char :=
  match x.attempt with
  | 0 => '_' :: encode (utf8 x.member)
  | n + 1 => '_' :: (Nat.toDigits 10 n ++ '_' :: encode (utf8 x.member))

/-- The number of `x` reads as an escaped byte in the name of `y`, and the number of `y` as one in
the salt of `x`; what stands between the numbers belongs to both. -/
def Overlaps (x y : Request) : Prop :=
  ∃ n m between, x.attempt = n + 1 ∧ y.attempt = m + 1 ∧
    (10 ≤ n ∧ n < 100) ∧ (10 ≤ m ∧ m < 100) ∧
    synthesize y.name = synthesize x.name ++ "_" ++ toString n ++ "_" ++ between ∧
    synthesize x.member = between ++ "_" ++ toString m ++ "_" ++ synthesize y.member

theorem toList_id (x : Request) : x.id.toList = encode (utf8 x.name) ++ x.ending := by
  unfold id ending Identifier.attempt
  cases x.attempt <;> simp [synthesize, String.toList_append]

theorem Overlaps.id_eq {x y : Request} (h : x.Overlaps y) : x.id = y.id := by
  obtain ⟨n, m, between, hx, hy, -, -, hname, hmember⟩ := h
  unfold id
  rw [hx, hy, hname, hmember]
  simp only [Identifier.attempt, String.append_assoc]

/-- The salt of a member is a mark, or reads as the bytes of the member's name. -/
theorem read_salt (member : String) :
    encode (utf8 member) = ['_'] ∨ bytes? false (encode (utf8 member)) = some (utf8 member) := by
  cases hbytes : utf8 member with
  | nil => exact .inl rfl
  | cons b rest => exact .inr (bytes?_of_first (bytes?_encode (List.cons_ne_nil _ _)))

/-- A salt does not begin with a digit. -/
theorem salt_ne_digit {member : String} {c : Char} {rest : List Char}
    (h : encode (utf8 member) = c :: rest) : c.isDigit = false := by
  obtain ⟨first, more, hencoded, hstart⟩ := head_encode (utf8 member)
  obtain ⟨rfl, -⟩ := List.cons.inj (h.symm.trans hencoded)
  unfold startsIdentifier at hstart
  rw [Bool.or_eq_true, isAlpha_iff, beq_iff_eq] at hstart
  rw [Bool.eq_false_iff, ne_eq, isDigit_iff]
  rcases hstart with hletter | rfl
  · omega
  · decide

theorem digits_ne_salt {n : Nat} {member : String} {rest : List Char} :
    Nat.toDigits 10 n ++ rest ≠ encode (utf8 member) := by
  intro h
  cases hdigits : Nat.toDigits 10 n with
  | nil => exact Nat.toDigits_ne_nil hdigits
  | cons c more =>
      rw [hdigits] at h
      have hdigit := Nat.isDigit_of_mem_toDigits (n := n) (c := c) (show 0 < 10 by omega)
        (by omega) (by rw [hdigits]; exact List.mem_cons_self)
      rw [salt_ne_digit h.symm] at hdigit
      cases hdigit

theorem member_of_salt {member member' : String}
    (h : encode (utf8 member) = encode (utf8 member')) : member = member' := by
  have hread := decode_synthesize member
  rw [synthesize, h, ← synthesize, decode_synthesize] at hread
  exact (Option.some.inj hread).symm

/-- What follows the name tells the member. -/
theorem member_of_ending {x y : Request} (h : x.ending = y.ending) : x.member = y.member := by
  unfold ending at h
  split at h <;> split at h
  · exact member_of_salt (List.cons.inj h).2
  · exact absurd (List.cons.inj h).2.symm digits_ne_salt
  · exact absurd (List.cons.inj h).2 digits_ne_salt
  · have hsplit := split_at_mark Nat.underscore_not_in_toDigits Nat.underscore_not_in_toDigits
      (List.cons.inj h).2
    exact member_of_salt hsplit.2

/-- No salt begins with the digits of an escaped byte in a name: these would be letters, the byte
not ASCII, and so the next byte escaped too. -/
theorem salt_ne_escaped {name name' member : String} {b : UInt8} {tail : List UInt8}
    (hname : utf8 name' = utf8 name ++ b :: tail) (rest : List Char) :
    encode (utf8 member) ≠
      hexDigit (b.toNat / 16) :: hexDigit (b.toNat % 16) :: '_' :: (encodeRest tail ++ rest) := by
  intro h
  have hbound : b.toNat < 256 := b.toNat_lt
  have hdigits : ∀ digit : Fin 16, hexDigit digit ≠ '_' := by decide
  have hletter : ∀ digit : Fin 16, (hexDigit digit).isDigit = false → 10 ≤ digit.val := by decide
  have hhigh := hletter ⟨b.toNat / 16, by omega⟩ (salt_ne_digit h)
  simp only at hhigh
  obtain ⟨b', tail', rfl, hb'⟩ := next_of_utf8_append hname (by omega)
  have hescaped : encodeByte false b' = escape b' := by
    have hliteral := isLiteral_iff b'
    unfold encodeByte
    rw [if_neg]
    intro hplain
    have hrange := hliteral.1 (isLiteral_of_plain hplain)
    omega
  have hread : bytes? false (encode (utf8 member)) = none := by
    have hrest : encodeRest (b' :: tail') = encodeByte false b' ++ encodeRest tail' := rfl
    rw [h, hrest, hescaped]
    refine unread_of_marks (l := [_, _]) ?_
    have hhi := hdigits ⟨b.toNat / 16, by omega⟩
    have hlo := hdigits ⟨b.toNat % 16, by omega⟩
    simp only [List.mem_cons, List.not_mem_nil, or_false, not_or]
    exact ⟨hhi.symm, hlo.symm⟩
  rcases read_salt member with hmark | hsalt
  · have hlength := congrArg List.length (hmark.symm.trans h)
    simp only [List.length_cons, List.length_nil] at hlength
    omega
  · rw [hread] at hsalt
    cases hsalt

/-- A salt is not part of another one, behind a mark. -/
theorem salt_ne_append (member member' : String) (bytes : List UInt8) :
    encode (utf8 member) ≠ encodeRest bytes ++ '_' :: encode (utf8 member') := by
  intro h
  rcases read_salt member with hmark | hread
  · have hlength := congrArg List.length h
    have hpos := List.length_pos_iff.2 (encode_ne_nil (utf8 member'))
    simp only [hmark, List.length_append, List.length_cons, List.length_nil] at hlength
    omega
  · rcases read_salt member' with hmark' | hread'
    · rw [h, hmark', bytes?_encodeRest_append] at hread
      cases hread
    · have heven := even_marks hread
      have heven' := even_marks hread'
      have hrest := even_marks (bytes?_encodeRest bytes)
      rw [h, List.count_append, List.count_cons_self] at heven
      omega

/-- A number within a salt is an escaped byte of it. -/
theorem two_digits_of_salt {member member' : String} {bytes : List UInt8} {m : Nat}
    (h : encode (utf8 member) =
      encodeRest bytes ++ '_' :: (Nat.toDigits 10 m ++ '_' :: encode (utf8 member'))) :
    10 ≤ m ∧ m < 100 := by
  rcases read_salt member with hmark | hread
  · have hlength := congrArg List.length (hmark.symm.trans h)
    simp only [List.length_append, List.length_cons, List.length_nil] at hlength
    omega
  · rw [h, bytes?_encodeRest_append] at hread
    obtain ⟨read, hescape, -⟩ := Option.map_eq_some_iff.1 hread
    obtain ⟨hi, lo, rest, -, hdigits, hhi, hlo, -⟩ := escape_of_mark hescape
    have hbyte : '_' ∉ [hi, lo] := by simp [hhi.symm, hlo.symm]
    have hsplit := split_at_mark Nat.underscore_not_in_toDigits hbyte hdigits
    exact two_digits hsplit.1

/-- If the identifiers agree and the name of `y` goes on beyond that of `x`, the requests
overlap. -/
theorem overlaps_of_ending {x y : Request} {l : List Char}
    (hmember : x.member ≠ y.member) (hname : encode (utf8 y.name) = encode (utf8 x.name) ++ l)
    (hending : x.ending = l ++ y.ending) : x.Overlaps y := by
  have hmark : ∃ more, x.ending = '_' :: more := by
    unfold ending
    split <;> exact ⟨_, rfl⟩
  cases l with
  | nil => exact absurd (member_of_ending hending) hmember
  | cons c l =>
      obtain ⟨more, hmore⟩ := hmark
      obtain rfl : c = '_' := (List.cons.inj (hending.symm.trans hmore)).1
      obtain ⟨b, tail, hbytes, hescape⟩ := escape_of_encode_append hname
      rw [hescape] at hname hending
      cases hx : x.attempt with
      | zero =>
          rw [ending, hx] at hending
          exact absurd (List.cons.inj hending).2 (salt_ne_escaped hbytes y.ending)
      | succ n =>
          have hhex : ∀ digit : Fin 16, '_' ≠ hexDigit digit := by decide
          have hhi : '_' ≠ hexDigit (b.toNat / 16) :=
            hhex ⟨b.toNat / 16, by have := b.toNat_lt; omega⟩
          have hlo : '_' ≠ hexDigit (b.toNat % 16) := hhex ⟨b.toNat % 16, by omega⟩
          have hbyte : '_' ∉ [hexDigit (b.toNat / 16), hexDigit (b.toNat % 16)] := by
            simp [hhi, hlo]
          rw [ending, hx] at hending
          obtain ⟨hdigits, hsalt⟩ := split_at_mark Nat.underscore_not_in_toDigits hbyte
            (List.cons.inj hending).2
          cases hy : y.attempt with
          | zero =>
              rw [ending, hy] at hsalt
              exact absurd hsalt (salt_ne_append _ _ tail)
          | succ m =>
              rw [ending, hy] at hsalt
              have hnumber := two_digits_of_salt hsalt
              refine ⟨n, m, String.ofList (encodeRest tail), hx, hy, two_digits hdigits, hnumber,
                String.toList_inj.1 ?_, String.toList_inj.1 ?_⟩
              · simp [synthesize, hname, escape, hdigits]
              · simp [synthesize, hsalt]

/-- Requests of two members come to the same identifier just if they overlap. -/
theorem id_eq_iff {x y : Request} (h : x.member ≠ y.member) :
    x.id = y.id ↔ x.Overlaps y ∨ y.Overlaps x := by
  constructor
  · intro hid
    have hlist : encode (utf8 x.name) ++ x.ending = encode (utf8 y.name) ++ y.ending := by
      rw [← toList_id, ← toList_id, hid]
    obtain ⟨l, hname, hending⟩ | ⟨l, hname, hending⟩ := List.append_eq_append_iff.1 hlist
    · exact .inl (overlaps_of_ending h hname hending)
    · exact .inr (overlaps_of_ending h.symm hname hending)
  · rintro (hoverlap | hoverlap)
    · exact hoverlap.id_eq
    · exact hoverlap.id_eq.symm

end Request

end Coedit.Identifier
