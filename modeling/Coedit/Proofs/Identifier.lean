import Coedit.Proofs.Codec
import Mathlib.Algebra.Group.Nat.Defs
import Mathlib.Data.Finset.Card
import Mathlib.Data.Nat.Find

/-!
# Free identifiers

Numbered attempts are different from each other, so a finite collection of names does not hold all
of the first few: the search through it ends with the first attempt that it does not hold, after no
more tests than it has different names, and one. Only a collection with as many names as there are
attempts is exhausted. An attempt for something that an identifier may be is again what an
identifier may be.
-/

namespace Coedit.Identifier

/-! ## What an identifier may be -/

/-- A text that an identifier may be: it starts with a letter or `_` and holds only what may stand
in an identifier. -/
def Admissible (id : String) : Prop :=
  (∃ c ∈ id.toList.head?, startsIdentifier c = true) ∧ ∀ c ∈ id.toList, mayStand c = true

theorem admissible_synthesize (name : String) : Admissible (synthesize name) := by
  obtain ⟨first, rest, hencoded, hfirst⟩ := head_encode (utf8 name)
  unfold Admissible synthesize
  rw [String.toList_ofList]
  constructor
  · rw [hencoded]
    exact ⟨first, rfl, hfirst⟩
  · exact fun c hc => mayStand_encode hc

/-- Anything that may stand in an identifier may follow one. -/
theorem Admissible.append {id suffix : String} (h : Admissible id)
    (hsuffix : ∀ c ∈ suffix.toList, mayStand c = true) : Admissible (id ++ suffix) := by
  obtain ⟨⟨c, hhead, hc⟩, hall⟩ := h
  unfold Admissible
  rw [String.toList_append]
  constructor
  · exact ⟨c, by simp [Option.mem_def.1 hhead], hc⟩
  · intro c hmem
    rcases List.mem_append.1 hmem with hold | hnew
    · exact hall c hold
    · exact hsuffix c hnew

theorem mayStand_toString {n : Nat} {c : Char} (h : c ∈ (toString n).toList) :
    mayStand c = true := by
  rw [Nat.toString_eq_repr, Nat.toList_repr] at h
  have hdigit : c.isDigit = true := Nat.isDigit_of_mem_toDigits (by decide) (by decide) h
  simp [mayStand, Char.isAlphanum, hdigit]

theorem admissible_attempt {candidate salt : String} (hcandidate : Admissible candidate)
    (hsalt : Admissible salt) (n : Nat) : Admissible (attempt candidate salt n) := by
  have hmark : ∀ c ∈ "_".toList, mayStand c = true := by simp [mayStand]
  cases n with
  | zero => exact (hcandidate.append hmark).append hsalt.2
  | succ n =>
      have hnumbered := (hcandidate.append hmark).append fun c hc => mayStand_toString (n := n) hc
      exact (hnumbered.append hmark).append hsalt.2

/-! ## Attempts are different -/

/-- A number makes an attempt longer. -/
theorem attempt_zero_ne (candidate salt : String) (n : Nat) :
    attempt candidate salt 0 ≠ attempt candidate salt (n + 1) := by
  intro h
  have hlength := congrArg (fun id => id.toList.length) h
  simp [attempt] at hlength
  omega

theorem attempt_injective (candidate salt : String) :
    Function.Injective (attempt candidate salt) := by
  intro n m h
  cases n with
  | zero =>
      cases m with
      | zero => rfl
      | succ m => exact absurd h (attempt_zero_ne candidate salt m)
  | succ n =>
      cases m with
      | zero => exact absurd h.symm (attempt_zero_ne candidate salt n)
      | succ m =>
          have hdigits : Nat.toDigits 10 n = Nat.toDigits 10 m := by
            have hlist := congrArg String.toList h
            simpa [attempt, Nat.toString_eq_repr, Nat.toList_repr] using hlist
          have hread := congrArg (fun digits => Nat.ofDigitChars 10 digits 0) hdigits
          simpa using hread

/-! ## The search -/

section Search

variable {ns : Namespace} {candidate salt id : String} {n k : Nat}

/-- A search comes as far as the first attempt that is not taken, if it may make tests enough. -/
theorem firstFree_of_taken
    (htaken : ∀ j < k, ns.takes (n + j) (attempt candidate salt (n + j)) = true)
    (hfree : ns.takes (n + k) (attempt candidate salt (n + k)) = false) (tests : Nat) :
    firstFree ns candidate salt tests n =
      if k < tests then some (attempt candidate salt (n + k)) else none := by
  induction tests generalizing n k with
  | zero => rw [if_neg (Nat.not_lt_zero k), firstFree]
  | succ tests ih =>
      unfold firstFree
      cases k with
      | zero =>
          rw [Nat.add_zero] at hfree ⊢
          rw [hfree, if_pos (Nat.succ_pos tests)]
          rfl
      | succ k =>
          have hfirst : ns.takes n (attempt candidate salt n) = true := htaken 0 (Nat.succ_pos k)
          have hsame : ∀ j, n + 1 + j = n + (j + 1) := fun j => by omega
          have hlater := ih (n := n + 1) (k := k)
            (fun j hj => hsame j ▸ htaken (j + 1) (Nat.succ_lt_succ hj)) (hsame k ▸ hfree)
          rw [if_pos hfirst, hlater, hsame]
          simp only [Nat.succ_lt_succ_iff]

/-- The attempt with this number is not among the names, and all before it are. -/
structure FirstFree (taken : List String) (candidate salt : String) (n : Nat) : Prop where
  free : attempt candidate salt n ∉ taken
  before : ∀ k < n, attempt candidate salt k ∈ taken

variable {taken more : List String}

theorem FirstFree.firstFree_eq (h : FirstFree taken candidate salt n) (tests : Nat) :
    firstFree (.names taken) candidate salt tests 0 =
      if n < tests then some (attempt candidate salt n) else none := by
  have htaken : ∀ j < n, (Namespace.names taken).takes (0 + j)
      (attempt candidate salt (0 + j)) = true := fun j hj => by
    simpa [Namespace.takes] using h.before j hj
  have hfree : (Namespace.names taken).takes (0 + n) (attempt candidate salt (0 + n)) = false := by
    simpa [Namespace.takes] using h.free
  have hsearch := firstFree_of_taken htaken hfree tests
  rwa [Nat.zero_add] at hsearch

/-- Attempts that are taken are as many different names. -/
theorem le_card_of_taken (h : ∀ k < n, attempt candidate salt k ∈ taken) :
    n ≤ taken.toFinset.card := by
  have hcard := Finset.card_le_card_of_injOn (s := Finset.range n) (t := taken.toFinset)
    (attempt candidate salt) (fun k hk => List.mem_toFinset.2 (h k (Finset.mem_range.1 hk)))
    (attempt_injective candidate salt).injOn
  rwa [Finset.card_range] at hcard

/-- No collection of names holds all attempts. -/
theorem exists_free_attempt (taken : List String) (candidate salt : String) :
    ∃ n, attempt candidate salt n ∉ taken := by
  by_contra hnone
  -- One attempt more than there are names would be as many different names.
  have hheld : ∀ n, attempt candidate salt n ∈ taken := by simpa using hnone
  exact Nat.not_succ_le_self _ (le_card_of_taken fun k _ => hheld k)

theorem exists_firstFree (taken : List String) (candidate salt : String) :
    ∃ n, FirstFree taken candidate salt n := by
  have hexists := exists_free_attempt taken candidate salt
  refine ⟨Nat.find hexists, Nat.find_spec hexists, fun k hk => ?_⟩
  simpa using Nat.find_min hexists hk

theorem FirstFree.uniqueWithin_eq (h : FirstFree taken candidate salt n) :
    uniqueWithin (.names taken) candidate salt =
      if n < attemptCount then .ok (attempt candidate salt n)
      else .error (.namespaceExhausted candidate) := by
  unfold uniqueWithin
  rw [h.firstFree_eq]
  by_cases hcount : n < attemptCount
  · rw [if_pos hcount, if_pos hcount]
  · rw [if_neg hcount, if_neg hcount]

/-- The search finds an attempt that is not among the names, or there are as many different names
as attempts. -/
theorem uniqueWithin_cases (taken : List String) (candidate salt : String) :
    (∃ k, uniqueWithin (.names taken) candidate salt = .ok (attempt candidate salt k) ∧
        attempt candidate salt k ∉ taken) ∨
      attemptCount ≤ taken.toFinset.card ∧
        uniqueWithin (.names taken) candidate salt = .error (.namespaceExhausted candidate) := by
  obtain ⟨n, hfirst⟩ := exists_firstFree taken candidate salt
  have hsearch := hfirst.uniqueWithin_eq
  by_cases hcount : n < attemptCount
  · rw [if_pos hcount] at hsearch
    exact .inl ⟨n, hsearch, hfirst.free⟩
  · rw [if_neg hcount] at hsearch
    exact .inr ⟨Nat.le_trans (Nat.le_of_not_lt hcount) (le_card_of_taken hfirst.before), hsearch⟩

/-- An identifier that was found is an attempt, and none of the names. -/
theorem attempt_of_uniqueWithin {taken : List String}
    (h : uniqueWithin (.names taken) candidate salt = .ok id) :
    ∃ k, id = attempt candidate salt k ∧ id ∉ taken := by
  obtain ⟨k, hfound, hfree⟩ | ⟨-, hexhausted⟩ := uniqueWithin_cases taken candidate salt
  · obtain rfl : id = attempt candidate salt k := Except.ok.inj (h.symm.trans hfound)
    exact ⟨k, rfl, hfree⟩
  · rw [hexhausted] at h
    cases h

/-- When the first free attempt becomes a name too, the next one is free later. -/
theorem FirstFree.lt_next {m : Nat} (h : FirstFree taken candidate salt n)
    (hmore : ∀ id, id ∈ more ↔ id = attempt candidate salt n ∨ id ∈ taken)
    (hnext : FirstFree more candidate salt m) : n < m := by
  by_contra hle
  refine hnext.free ((hmore _).2 ?_)
  rcases Nat.eq_or_lt_of_le (Nat.le_of_not_lt hle) with rfl | hlt
  · exact .inl rfl
  · exact .inr (h.before m hlt)

/-- Asked about fewer names than there are numbers, the search answers with the first attempt that
is not among them. It has found it after one test more than there are different names, or sooner,
and is done before the numbers run out. When the answer has become a name too, the next one is
another attempt, later in the sequence. -/
theorem first_free_attempt_found {taken : List String} (h : taken.toFinset.card < 2 ^ 64)
    (candidate salt : String) :
    ∃ n ≤ taken.toFinset.card, FirstFree taken candidate salt n ∧ n < attemptCount ∧
      uniqueWithin (.names taken) candidate salt = .ok (attempt candidate salt n) ∧
      (∀ tests, firstFree (.names taken) candidate salt tests 0 =
        if n < tests then some (attempt candidate salt n) else none) ∧
      ∀ more : List String, (∀ id, id ∈ more ↔ id = attempt candidate salt n ∨ id ∈ taken) →
        ∃ m > n, FirstFree more candidate salt m ∧
          uniqueWithin (.names more) candidate salt = .ok (attempt candidate salt m) ∧
          attempt candidate salt m ≠ attempt candidate salt n := by
  obtain ⟨n, hfirst⟩ := exists_firstFree taken candidate salt
  have hcard := le_card_of_taken hfirst.before
  have hcount : n < attemptCount := Nat.lt_succ_of_lt (Nat.lt_of_le_of_lt hcard h)
  have hfound := hfirst.uniqueWithin_eq
  rw [if_pos hcount] at hfound
  refine ⟨n, hcard, hfirst, hcount, hfound, hfirst.firstFree_eq, fun more hmore => ?_⟩
  obtain ⟨m, hnext⟩ := exists_firstFree more candidate salt
  have hlater := hfirst.lt_next hmore hnext
  have hone : more.toFinset.card ≤ taken.toFinset.card + 1 := by
    rw [show more.toFinset = insert (attempt candidate salt n) taken.toFinset by ext; simp [hmore]]
    exact Finset.card_insert_le _ _
  have hcount' : m < attemptCount :=
    Nat.lt_succ_of_le (Nat.le_trans (le_card_of_taken hnext.before) (Nat.le_trans hone h))
  have hagain := hnext.uniqueWithin_eq
  rw [if_pos hcount'] at hagain
  exact ⟨m, hlater, hnext, hagain, (attempt_injective candidate salt).ne (Nat.ne_of_gt hlater)⟩

/-- Of the first four attempts only the third is free, and three tests find it. With that taken as
well, the next answer comes later; a name that is like it but for a zero does not count. -/
theorem next_attempt_after_gap :
    let taken := ["s_2_m", "s_0_m", "s_m", "s_03_m", "s_m"]
    taken.toFinset.card < 2 ^ 64 ∧
      uniqueWithin (.names taken) "s" "m" = .ok (attempt "s" "m" 2) ∧
      firstFree (.names taken) "s" "m" 3 0 = some "s_1_m" ∧
      ∃ n > 2, uniqueWithin (.names ("s_1_m" :: taken)) "s" "m" = .ok (attempt "s" "m" n) := by
  intro taken
  have hfew : taken.toFinset.card < 2 ^ 64 := by decide
  have hgap : uniqueWithin (.names taken) "s" "m" = .ok (attempt "s" "m" 2) := by decide +kernel
  obtain ⟨n, -, -, -, hfound, htests, hnext⟩ := first_free_attempt_found hfew "s" "m"
  obtain rfl : n = 2 := attempt_injective "s" "m" (Except.ok.inj (hfound.symm.trans hgap))
  obtain ⟨m, hlater, -, hagain, -⟩ := hnext ("s_1_m" :: taken) fun id => List.mem_cons
  refine ⟨hfew, hgap, ?_, m, hlater, hagain⟩
  rw [htests 3, if_pos (by decide)]
  rfl

end Search

end Coedit.Identifier
