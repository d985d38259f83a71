import Coedit.Decimal.Reading
import Coedit.Toml.Quoted
import Coedit.Wire.Value

/-!
# Reading TOML scalars

Strings in their four forms, whole numbers, floats, booleans and dates. A scanner reads from
the front of a text and returns what is left.
-/

namespace Coedit.Toml

open Coedit.Wire (Value)

abbrev Scan (α : Type) := List Char → Option (α × List Char)

/-! ## Strings -/

def hexValue? (c : Char) : Option Nat :=
  if '0' ≤ c && c ≤ '9' then some (c.toNat - 48)
  else if 'a' ≤ c && c ≤ 'f' then some (c.toNat - 87)
  else if 'A' ≤ c && c ≤ 'F' then some (c.toNat - 55)
  else none

/-- The character with this code point; surrogates are no characters. -/
def ofCodePoint? (n : Nat) : Option Char := if n.isValidChar then some (Char.ofNat n) else none

def codePoint? (count : Nat) (s : List Char) : Option Char :=
  if (s.take count).length < count then none
  else do
    let digits ← (s.take count).mapM hexValue?
    ofCodePoint? (digits.foldl (fun n d => 16 * n + d) 0)

/-- An escape behind its backslash: the character, and the length of the escape. -/
def unescape? : List Char → Option (Char × Nat)
  | [] => none
  | e :: rest =>
    match e with
    | 'b' => some ('\x08', 1)
    | 't' => some ('\t', 1)
    | 'n' => some ('\n', 1)
    | 'f' => some ('\x0c', 1)
    | 'r' => some ('\r', 1)
    | 'e' => some ('\x1b', 1)
    | '"' => some ('"', 1)
    | '\\' => some ('\\', 1)
    | 'x' => (codePoint? 2 rest).map fun c => (c, 3)
    | 'u' => (codePoint? 4 rest).map fun c => (c, 5)
    | 'U' => (codePoint? 8 rest).map fun c => (c, 9)
    | _ => none

def push (c : Char) (s : Option (List Char × List Char)) : Option (List Char × List Char) :=
  s.map fun (text, rest) => (c :: text, rest)

def basicText : Scan (List Char)
  | [] => none
  | c :: rest =>
    if c = '"' then some ([], rest)
    else if c = '\\' then
      match unescape? rest with
      | some (c, length) => push c (basicText (rest.drop length))
      | none => none
    else if isControl c then none
    else push c (basicText rest)
  termination_by s => s.length
  decreasing_by
    all_goals simp only [List.length_cons, List.length_drop]
    all_goals omega

def literalText : Scan (List Char)
  | [] => none
  | c :: rest =>
    if c = '\'' then some ([], rest)
    else if isControl c then none
    else push c (literalText rest)

def dropGap : List Char → List Char
  | ' ' :: rest => dropGap rest
  | '\t' :: rest => dropGap rest
  | '\n' :: rest => dropGap rest
  | '\r' :: '\n' :: rest => dropGap rest
  | rest => rest

theorem length_dropGap_le (s : List Char) : (dropGap s).length ≤ s.length := by
  fun_induction dropGap s <;> simp only [List.length_cons, Nat.le_refl] <;> omega

def dropBlanks (s : List Char) : List Char := s.dropWhile fun c => c = ' ' || c = '\t'

def afterLineEnd? : List Char → Option (List Char)
  | '\n' :: rest => some rest
  | '\r' :: '\n' :: rest => some rest
  | _ => none

/-- The quotes at the front, five at most, if there are enough to close a string. -/
def closing? (quote : Char) (s : List Char) : Option (List Char × List Char) :=
  let quotes := (s.takeWhile (· = quote)).take 5
  if 3 ≤ quotes.length then some (quotes.drop 3, s.drop quotes.length) else none

/-- A basic string of several lines behind its opening quotes. A backslash at the end of a
line takes away the gap up to the next text. -/
def multilineBasicText : Scan (List Char)
  | [] => none
  | c :: rest =>
    match closing? '"' (c :: rest) with
    | some result => some result
    | none =>
      if c = '\\' then
        if (afterLineEnd? (dropBlanks rest)).isSome then multilineBasicText (dropGap rest)
        else match unescape? rest with
          | some (c, length) => push c (multilineBasicText (rest.drop length))
          | none => none
      else if c = '\r' then
        if rest.head? = some '\n' then push c (multilineBasicText rest) else none
      else if isControl c && c ≠ '\n' then none
      else push c (multilineBasicText rest)
  termination_by s => s.length
  decreasing_by
    all_goals simp only [List.length_cons, List.length_drop]
    all_goals first
      | omega
      | (have h := length_dropGap_le rest
         omega)

def multilineLiteralText : Scan (List Char)
  | [] => none
  | c :: rest =>
    match closing? '\'' (c :: rest) with
    | some result => some result
    | none =>
      if c = '\r' then
        if rest.head? = some '\n' then push c (multilineLiteralText rest) else none
      else if isControl c && c ≠ '\n' then none
      else push c (multilineLiteralText rest)

def dropFirstLineEnd (s : List Char) : List Char := (afterLineEnd? s).getD s

def string? : List Char → Option (Option (List Char × List Char))
  | '"' :: '"' :: '"' :: rest => some (multilineBasicText (dropFirstLineEnd rest))
  | '\'' :: '\'' :: '\'' :: rest => some (multilineLiteralText (dropFirstLineEnd rest))
  | '"' :: rest => some (basicText rest)
  | '\'' :: rest => some (literalText rest)
  | _ => none

/-! ## Numbers -/

/-- Digits in groups that are joined by single underscores, without the underscores. -/
def ungroup (isDigit : Char → Bool) : List Char → Option (List Char)
  | [] => none
  | [c] => if isDigit c then some [c] else none
  | c :: '_' :: rest => if isDigit c then (ungroup isDigit rest).map (c :: ·) else none
  | c :: rest => if isDigit c then (ungroup isDigit rest).map (c :: ·) else none

def takeSign : List Char → Bool × List Char
  | '-' :: rest => (true, rest)
  | '+' :: rest => (false, rest)
  | rest => (false, rest)

def decimalDigits? (s : List Char) : Option (List Char) :=
  match ungroup Char.isDigit s with
  | some ['0'] => some ['0']
  | some ('0' :: _) => none
  | digits => digits

def basedDigits? (base : Nat) (s : List Char) : Option Nat := do
  let digits ← ungroup (fun c => (hexValue? c).any (· < base)) s
  pure (digits.foldl (fun n c => base * n + (hexValue? c).getD 0) 0)

/-- A whole number, if 128 bits hold it, with a sign or without. -/
def ofInteger (n : Int) : Value :=
  let limit := Decimal.twoTo (if n < 0 then 127 else 128)
  if n.natAbs < limit ∨ (n < 0 ∧ n.natAbs = limit) then .int n else .tooLarge

def integer? (s : List Char) : Option Int :=
  match s with
    | '0' :: 'x' :: rest => (basedDigits? 16 rest).map Int.ofNat
    | '0' :: 'o' :: rest => (basedDigits? 8 rest).map Int.ofNat
    | '0' :: 'b' :: rest => (basedDigits? 2 rest).map Int.ofNat
    | _ =>
      let (negative, rest) := takeSign s
      (decimalDigits? rest).map fun digits =>
        let n : Int := Decimal.digitsValue digits
        if negative then -n else n

def floatPart? (isMark : Char → Bool) (s : List Char) : Option (List Char × List Char) :=
  let isPart (c : Char) := c.isDigit || c = '_'
  match s with
  | [] => some ([], [])
  | mark :: rest =>
    if isMark mark then
      let (negative, rest) := if mark = '.' then (false, rest) else takeSign rest
      (ungroup Char.isDigit (rest.takeWhile isPart)).map fun digits =>
        (mark :: (if negative then '-' :: digits else digits), rest.dropWhile isPart)
    else some ([], s)

/-- A float in digits: it has a fraction or an exponent. If it is too large for a double, the
result is infinite. -/
def digitsFloat? (s : List Char) : Option Float := do
  let isPart (c : Char) := c.isDigit || c = '_'
  let (negative, rest) := takeSign s
  let whole ← decimalDigits? (rest.takeWhile isPart)
  let (fraction, rest) ← floatPart? (· = '.') (rest.dropWhile isPart)
  let (exponent, rest) ← floatPart? (fun c => c = 'e' || c = 'E') rest
  if !rest.isEmpty || (fraction.isEmpty && exponent.isEmpty) then none
  else
    let sign := if negative then ['-'] else []
    match Decimal.readFloat (String.ofList (sign ++ whole ++ fraction ++ exponent)) with
    | .ok x => some x
    | .error _ => none

def float? (s : List Char) : Option Value :=
  let (negative, rest) := takeSign s
  if rest = "inf".toList then some (.float (Decimal.ofSigned negative Decimal.infinityBits))
  else if rest = "nan".toList then some (.float (Decimal.ofSigned negative Decimal.nanBits))
  else (digitsFloat? s).map fun x => if x.isFinite then .float x else .tooLarge

/-! ## Dates -/

def fixedDigits (count : Nat) : Scan Nat := fun s =>
  let digits := s.take count
  if digits.length = count ∧ digits.all Char.isDigit then
    some (Decimal.digitsValue digits, s.drop count)
  else none

def expect (c : Char) : Scan Unit
  | d :: rest => if d = c then some ((), rest) else none
  | [] => none

def daysIn (year month : Nat) : Nat :=
  if month = 2 then
    if year % 4 = 0 ∧ (year % 100 ≠ 0 ∨ year % 400 = 0) then 29 else 28
  else if month = 4 ∨ month = 6 ∨ month = 9 ∨ month = 11 then 30
  else 31

/-- What follows a date that stands at the front. -/
def afterDate? (s : List Char) : Option (List Char) := do
  let (year, s) ← fixedDigits 4 s
  let ((), s) ← expect '-' s
  let (month, s) ← fixedDigits 2 s
  let ((), s) ← expect '-' s
  let (day, s) ← fixedDigits 2 s
  if 1 ≤ month ∧ month ≤ 12 ∧ 1 ≤ day ∧ day ≤ daysIn year month then some s else none

def afterFraction? : List Char → Option (List Char)
  | '.' :: rest =>
    if (rest.takeWhile Char.isDigit).isEmpty then none else some (rest.dropWhile Char.isDigit)
  | rest => some rest

/-- What follows a time of day; it may go without seconds. -/
def afterTime? (s : List Char) : Option (List Char) := do
  let (hour, s) ← fixedDigits 2 s
  let ((), s) ← expect ':' s
  let (minute, s) ← fixedDigits 2 s
  let (second, s) ← match s with
    | ':' :: s => do
      let (second, s) ← fixedDigits 2 s
      let s ← afterFraction? s
      pure (second, s)
    | s => pure (0, s)
  if hour ≤ 23 ∧ minute ≤ 59 ∧ second ≤ 60 then some s else none

def isOffset (s : List Char) : Bool :=
  match s with
  | [] => true
  | ['Z'] | ['z'] => true
  | sign :: rest =>
    (sign = '+' || sign = '-') &&
      match fixedDigits 2 rest with
      | some (hour, ':' :: rest) =>
        match fixedDigits 2 rest with
        | some (minute, []) => hour ≤ 23 && minute ≤ 59
        | _ => false
      | _ => false

/-- A date, a time of day, or both; only both can have an offset. -/
def isMoment (s : List Char) : Bool :=
  match afterDate? s with
  | some [] => true
  | some (separator :: rest) =>
    (separator = 'T' || separator = 't' || separator = ' ') &&
      match afterTime? rest with
      | some rest => isOffset rest
      | none => false
  | none => afterTime? s = some []

/-- A moment, as a record that no reader of this library looks into. -/
def ofMoment (s : List Char) : Value := .object [("moment", .text (String.ofList s))]

/-! ## Bare scalars -/

def isBare (c : Char) : Bool :=
  c.isAlphanum || c = '_' || c = '-' || c = '+' || c = '.' || c = ':'

/-- The bare characters at the front. A date may be followed by a blank and a time. -/
def bareText (s : List Char) : List Char :=
  let word := s.takeWhile isBare
  if afterDate? word = some [] then
    match s.drop word.length with
    | ' ' :: c :: rest =>
      if c.isDigit then word ++ ' ' :: (c :: rest).takeWhile isBare else word
    | _ => word
  else word

def ofBare? (s : List Char) : Option Value :=
  if s = "true".toList then some (.bool true)
  else if s = "false".toList then some (.bool false)
  else match integer? s with
    | some n => some (ofInteger n)
    | none =>
      match float? s with
      | some v => some v
      | none => if isMoment s then some (ofMoment s) else none

/-- A value that consists of one word or string. -/
def scalar : Scan Value := fun s =>
  match string? s with
  | some result => result.map fun (text, rest) => (.text (String.ofList text), rest)
  | none =>
    let word := bareText s
    (ofBare? word).map fun v => (v, s.drop word.length)

end Coedit.Toml
