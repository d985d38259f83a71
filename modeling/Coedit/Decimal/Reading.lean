import Coedit.Decimal.Binary

/-!
# Reading numbers

Whole numbers up to 64 bits and decimals, as they are typed on a command line, with the
reason why a text is neither.
-/

namespace Coedit.Decimal

inductive NumberFault where
  | emptyInteger
  | invalidDigit
  | tooLarge
  | emptyFloat
  | invalidFloat
  deriving DecidableEq, Repr

def NumberFault.message : NumberFault → String
  | .emptyInteger => "cannot parse integer from empty string"
  | .invalidDigit => "invalid digit found in string"
  | .tooLarge => "number too large to fit in target type"
  | .emptyFloat => "cannot parse float from empty string"
  | .invalidFloat => "invalid float literal"

def wordLimit : Nat := twoTo 64

def digitsToWord (acc : Nat) : List Char → Except NumberFault Nat
  | [] => .ok acc
  | c :: rest =>
    if !c.isDigit then .error .invalidDigit
    else
      let next := 10 * acc + (c.toNat - 48)
      if next < wordLimit then digitsToWord next rest else .error .tooLarge

/-- Reads a whole number below `2 ^ 64`; a plus sign may stand before it. The first fault
from the left is reported. -/
def readWord (s : String) : Except NumberFault Nat :=
  match s.toList with
  | [] => .error .emptyInteger
  | '+' :: rest => if rest.isEmpty then .error .invalidDigit else digitsToWord 0 rest
  | cs => digitsToWord 0 cs

def digitsValue (cs : List Char) : Nat :=
  cs.foldl (fun acc c => 10 * acc + (c.toNat - 48)) 0

def spanDigits (cs : List Char) : List Char × List Char :=
  (cs.takeWhile Char.isDigit, cs.dropWhile Char.isDigit)

/-- An exponent part, or nothing; it must end the text. -/
def exponent? : List Char → Option Int
  | [] => some 0
  | e :: rest =>
    if e = 'e' || e = 'E' then
      let (negative, rest) := match rest with
        | '-' :: rest => (true, rest)
        | '+' :: rest => (false, rest)
        | rest => (false, rest)
      let (digits, rest) := spanDigits rest
      if digits.isEmpty || !rest.isEmpty then none
      else some (if negative then -digitsValue digits else digitsValue digits)
    else none

/-- Digits with at most one point and an optional exponent, read to the nearest double. -/
def decimal? (negative : Bool) (cs : List Char) : Option Float :=
  let (whole, rest) := spanDigits cs
  let (fraction, rest) := match rest with
    | '.' :: rest => spanDigits rest
    | rest => ([], rest)
  if whole.isEmpty && fraction.isEmpty then none
  else (exponent? rest).map fun e =>
    nearest negative (digitsValue (whole ++ fraction)) (e - fraction.length)

/-- Reads a double: a decimal, or `inf`, `infinity` or `nan` in any case, with a sign. -/
def readFloat (s : String) : Except NumberFault Float :=
  match s.toList with
  | [] => .error .emptyFloat
  | cs =>
    let (negative, rest) := match cs with
      | '-' :: rest => (true, rest)
      | '+' :: rest => (false, rest)
      | rest => (false, rest)
    let name := String.ofList (rest.map Char.toLower)
    if name = "inf" || name = "infinity" then .ok (ofSigned negative infinityBits)
    else if name = "nan" then .ok (ofSigned negative nanBits)
    else match decimal? negative rest with
      | some x => .ok x
      | none => .error .invalidFloat

end Coedit.Decimal
