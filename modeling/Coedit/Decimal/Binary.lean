/-!
# Binary fractions

A finite double is `m * 2 ^ q` with `m` below `2 ^ 53`. This module takes doubles apart and
finds the double nearest to a fraction of natural numbers.
-/

namespace Coedit.Decimal

def twoTo (n : Nat) : Nat := Nat.pow 2 n

def tenTo (n : Nat) : Nat := Nat.pow 10 n

/-- A finite double without its sign: `significand * 2 ^ exponent`. -/
structure Binary where
  significand : Nat
  exponent : Int
  deriving DecidableEq, Repr

def fractionBits (bits : Nat) : Nat := bits % twoTo 52

def exponentBits (bits : Nat) : Nat := bits / twoTo 52 % twoTo 11

def signBit (bits : Nat) : Bool := bits / twoTo 63 % 2 == 1

def Binary.ofBits (bits : Nat) : Binary :=
  if exponentBits bits = 0 then ⟨fractionBits bits, -1074⟩
  else ⟨fractionBits bits + twoTo 52, exponentBits bits - 1075⟩

def infinityBits : Nat := 2047 * twoTo 52

def nanBits : Nat := infinityBits + twoTo 51

def ofSigned (negative : Bool) (bits : Nat) : Float :=
  Float.ofBits (UInt64.ofNat (if negative then bits + twoTo 63 else bits))

def scaleTwo (num den : Nat) (e : Int) : Nat × Nat :=
  if 0 ≤ e then (num * twoTo e.toNat, den) else (num, den * twoTo (-e).toNat)

def scaleTen (num den : Nat) (e : Int) : Nat × Nat :=
  if 0 ≤ e then (num * tenTo e.toNat, den) else (num, den * tenTo (-e).toNat)

/-- The nearest whole number, a half going to the even neighbour. -/
def roundEven (num den : Nat) : Nat :=
  let low := num / den
  let rest := num % den
  if 2 * rest < den then low
  else if den < 2 * rest then low + 1
  else if low % 2 = 0 then low else low + 1

/-- The exponent of the grid on which a positive fraction is rounded: it leaves 53 binary
digits before the point, and is at least -1074. -/
def gridExponent (num den : Nat) : Int :=
  let guess : Int := (Nat.log2 num : Int) - Nat.log2 den - 52
  let (n, d) := scaleTwo num den (-guess)
  let exact :=
    if n / d < twoTo 52 then guess - 1 else if twoTo 53 ≤ n / d then guess + 1 else guess
  max exact (-1074)

/-- The bits of the double nearest to a fraction; too large a fraction gives infinity. -/
def nearestBits (num den : Nat) : Nat :=
  if num = 0 then 0
  else
    let q := gridExponent num den
    let (n, d) := scaleTwo num den (-q)
    let m := roundEven n d
    if m < twoTo 52 then m
    else
      let (m, q) := if m = twoTo 53 then (twoTo 52, q + 1) else (m, q)
      if 971 < q then infinityBits
      else (q + 1075).toNat * twoTo 52 + (m - twoTo 52)

/-- The double nearest to `digits * 10 ^ exponent`. Exponents far outside the range of
doubles are cut down first, which changes no result. -/
def nearest (negative : Bool) (digits : Nat) (exponent : Int) : Float :=
  let length : Int := (Nat.toDigits 10 digits).length
  let bits :=
    if digits = 0 || length + exponent < -400 then 0
    else if 400 < length + exponent then infinityBits
    else
      let (n, d) := scaleTen digits 1 exponent
      nearestBits n d
  ofSigned negative bits

end Coedit.Decimal
