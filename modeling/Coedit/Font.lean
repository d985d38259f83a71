/-!
# Fonts

Two lists of fonts are offered to the user: the families that a stylesheet loads, and the
fonts that the document declares.
-/

namespace Coedit.Font

def dedupe {α : Type} [DecidableEq α] : List α → List α
  | [] => []
  | x :: xs => x :: (dedupe xs).filter (· ≠ x)

def skipSpaces (s : List Char) : List Char := s.dropWhile (· = ' ')

/-- The text up to the next `quote` and what follows it. -/
def quotedBy (quote : Char) (s : List Char) : Option (List Char × List Char) :=
  match s.dropWhile (· ≠ quote) with
  | [] => none
  | _ :: rest => some (s.takeWhile (· ≠ quote), rest)

def stripStart (start s : List Char) : Option (List Char) :=
  if start.isPrefixOf s then some (s.drop start.length) else none

/-- A quoted family declaration at the start of `s`: the family and what follows it. -/
def declarationAt? (s : List Char) : Option (List Char × List Char) := do
  let s ← stripStart "font-family".toList s
  match skipSpaces s with
  | ':' :: s =>
    match skipSpaces s with
    | '\'' :: s => quotedBy '\'' s
    | '"' :: s => quotedBy '"' s
    | _ => none
  | _ => none

theorem quotedBy_length {quote : Char} {s family rest : List Char}
    (h : quotedBy quote s = some (family, rest)) : rest.length < s.length := by
  unfold quotedBy at h
  split at h
  · cases h
  · rename_i c r hr
    cases h
    have := (List.dropWhile_suffix (fun x => decide (x ≠ quote)) (l := s)).length_le
    rw [hr] at this
    exact Nat.lt_of_succ_le this

theorem skipSpaces_length (s : List Char) : (skipSpaces s).length ≤ s.length :=
  (List.dropWhile_suffix _).length_le

theorem declarationAt?_length {s family rest : List Char}
    (h : declarationAt? s = some (family, rest)) : rest.length < s.length := by
  simp only [declarationAt?, stripStart, bind, Option.bind] at h
  split at h
  · cases h
  · rename_i t ht
    split at ht
    · cases ht
      have hd : (s.drop "font-family".toList.length).length ≤ s.length := by simp
      dsimp only at h
      split at h
      · rename_i u hu
        have h₁ := skipSpaces_length (s.drop "font-family".toList.length)
        rw [hu] at h₁
        have h₂ := skipSpaces_length u
        split at h
        · rename_i v hv
          rw [hv] at h₂
          have := quotedBy_length h
          simp only [List.length_cons] at h₁ h₂
          omega
        · rename_i v hv
          rw [hv] at h₂
          have := quotedBy_length h
          simp only [List.length_cons] at h₁ h₂
          omega
        · cases h
      · cases h
    · cases ht

/-- The quoted families of a stylesheet, leftmost declarations first, not overlapping. -/
def families (s : List Char) : List (List Char) :=
  match _h : declarationAt? s with
  | some (family, rest) => family :: families rest
  | none =>
    match s with
    | [] => []
    | _ :: rest => families rest
  termination_by s.length
  decreasing_by
    · exact declarationAt?_length ‹_›
    · simp

def available (css : String) : List String :=
  dedupe ((families css.toList).map String.ofList)

/-- Drops each entry whose family is not empty and was already seen. -/
def dropRepeated (seen : List String) : List (String × String) → List (String × String)
  | [] => []
  | (name, family) :: rest =>
    if family = "" then (name, family) :: dropRepeated seen rest
    else if family ∈ seen then dropRepeated seen rest
    else (name, family) :: dropRepeated (family :: seen) rest

/-- The declared fonts in name order, with one name for each family. -/
def declared (fonts : List (String × String)) : List (String × String) := dropRepeated [] fonts

end Coedit.Font
