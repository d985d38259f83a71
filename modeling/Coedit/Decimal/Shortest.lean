import Coedit.Decimal.Binary

/-!
# Shortest decimals

The decimal text of a double: the fewest digits that read back as the same double, of two
such decimals the nearer one, written without exponent.
-/

namespace Coedit.Decimal

structure Digits where
  digits : Nat
  exponent : Int
  deriving DecidableEq, Repr

/-- The reals that round to a double, in quarters of its last place: the double's value and
the ends of the interval over a common denominator. The ends belong to it iff the
significand is even. -/
structure Rounding where
  value : Nat
  low : Nat
  high : Nat
  den : Nat
  closed : Bool

def Rounding.ofBinary (b : Binary) : Rounding :=
  let (scale, den) := scaleTwo 1 1 (b.exponent - 2)
  let below := if b.significand = twoTo 52 && b.exponent != -1074 then 1 else 2
  { value := 4 * b.significand * scale
    low := (4 * b.significand - below) * scale
    high := (4 * b.significand + 2) * scale
    den
    closed := b.significand % 2 == 0 }

def Rounding.accepts (r : Rounding) (num den : Nat) : Bool :=
  if r.closed then r.low * den ≤ num * r.den && num * r.den ≤ r.high * den
  else r.low * den < num * r.den && num * r.den < r.high * den

def leadExponent (num den : Nat) : Int :=
  if den ≤ num then (Nat.toDigits 10 (num / den)).length - 1
  else -(Nat.toDigits 10 ((den - 1) / num)).length

/-- The best decimal of `count` digits, if one rounds to the double; of two equally near
ones the larger. -/
def Rounding.withDigits? (r : Rounding) (count : Nat) : Option Digits :=
  let exponent := leadExponent r.value r.den - count + 1
  let (num, den) := scaleTen r.value r.den (-exponent)
  let low := num / den
  let (unit, unitDen) := scaleTen 1 1 exponent
  let fits (d : Nat) := r.accepts (d * unit) unitDen
  let distanceLow := num - low * den
  let distanceHigh := (low + 1) * den - num
  match fits low, fits (low + 1) with
  | true, true => some ⟨if distanceLow < distanceHigh then low else low + 1, exponent⟩
  | true, false => some ⟨low, exponent⟩
  | false, true => some ⟨low + 1, exponent⟩
  | false, false => none

/-- The fewest digits, from one to seventeen, that round to the double. -/
def shortest (b : Binary) : Digits :=
  let r := Rounding.ofBinary b
  match (List.range 17).findSome? fun n => r.withDigits? (n + 1) with
  | some d => d
  | none => ⟨b.significand, 0⟩

/-- A decimal in positional notation, without needless zeros. -/
def Digits.plain (d : Digits) : String :=
  let text := Nat.toDigits 10 d.digits
  if 0 ≤ d.exponent then String.ofList (text ++ List.replicate d.exponent.toNat '0')
  else
    let places := (-d.exponent).toNat
    let padded := List.replicate (places + 1 - text.length) '0' ++ text
    let whole := padded.take (padded.length - places)
    let fraction := padded.drop (padded.length - places)
    let fraction := (fraction.reverse.dropWhile (· = '0')).reverse
    String.ofList (if fraction.isEmpty then whole else whole ++ '.' :: fraction)

/-- The text of a double: `NaN`, `inf`, or its shortest decimal, with a sign for negative
values and negative zero. -/
def plain (x : Float) : String :=
  let bits := x.toBits.toNat
  if exponentBits bits = 2047 && fractionBits bits != 0 then "NaN"
  else
    let sign := if signBit bits then "-" else ""
    let magnitude :=
      if exponentBits bits = 2047 then "inf"
      else
        let b := Binary.ofBits bits
        if b.significand = 0 then "0" else (shortest b).plain
    sign ++ magnitude

end Coedit.Decimal
