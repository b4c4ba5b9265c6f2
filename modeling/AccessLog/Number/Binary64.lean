import AccessLog.Number.Rounding

/-!
# Binary64 numbers

A `Binary64` is a floating-point number of 53 significant bits, kept as data:
a finite one is `± significand * 2 ^ exponent`, so every question about it is
a question about naturals. Everything that has to round goes through
`magnitudeOf?`, which rounds an exact quotient once, to the nearest, a half to
even, and reports a quotient beyond the range instead of approximating it.

`magnitudeOf?` is the only producer of finite magnitudes, so each value has one
representation: either the significand has its leading bit at position 52, or
the exponent is the least one.
-/

namespace AccessLog.Number

/-! ## Rounding to 53 bits -/

/-- The weight of the last place of the smallest numbers. -/
def leastExponent : Int := -1074

/-- The weight of the last place of the largest numbers. -/
def greatestExponent : Int := 971

/-- `significand * 2 ^ exponent`. -/
structure Magnitude where
  significand : Nat
  exponent : Int
  deriving Repr, DecidableEq

namespace Magnitude

/-- Numerator of the value as a quotient of naturals. -/
def num (x : Magnitude) : Nat := x.significand * Nat.pow 2 x.exponent.toNat

/-- Denominator of the value as a quotient of naturals: a power of two. -/
def den (x : Magnitude) : Nat := Nat.pow 2 (-x.exponent).toNat

end Magnitude

/-- The exponent of the leading bit of `num / den`, for positive arguments: the
difference of the two bit lengths, or one less. -/
def leadingBit (num den : Nat) : Int :=
  let guess : Int := (num.log2 : Int) - den.log2
  if den * Nat.pow 2 guess.toNat ≤ num * Nat.pow 2 (-guess).toNat then guess else guess - 1

/-- `num / den` in units of `2 ^ exponent`, rounded half to even. -/
def inUnits (num den : Nat) (exponent : Int) : Nat :=
  roundHalfEven (num * Nat.pow 2 (-exponent).toNat) (den * Nat.pow 2 exponent.toNat)

/-- `num / den` rounded to 53 significant bits, fewer near zero; `none` when
the rounded value is beyond the range. A significand that rounds up to
`2 ^ 53` is renormalised. -/
def magnitudeOf? (num den : Nat) : Option Magnitude :=
  if num = 0 then some ⟨0, leastExponent⟩
  else
    let exponent := max (leadingBit num den - 52) leastExponent
    let significand := inUnits num den exponent
    let rounded : Magnitude :=
      if significand = Nat.pow 2 53 then ⟨Nat.pow 2 52, exponent + 1⟩ else ⟨significand, exponent⟩
    if greatestExponent < rounded.exponent then none else some rounded

/-! ## The numbers -/

/-- A binary64 number; both zeros and both infinities are distinct values. -/
inductive Binary64 where
  | nan
  | infinite (negative : Bool)
  | finite (negative : Bool) (magnitude : Magnitude)
  deriving Repr, DecidableEq

namespace Binary64

/-- The quotient `± num / den`, infinite when it is beyond the range. -/
def ofQuotient (negative : Bool) (num den : Nat) : Binary64 :=
  match magnitudeOf? num den with
  | some magnitude => .finite negative magnitude
  | none => .infinite negative

/-- An integer rounded to a binary64 number; `none` when it is beyond the
range. -/
def ofInt? (n : Int) : Option Binary64 :=
  (magnitudeOf? n.natAbs 1).map (.finite (n < 0))

/-- `± digits * 10 ^ exponent`. Exponents that put any number of that many
digits beyond the range, or below half of the least number, are answered
without computing the power. -/
def ofDecimal (negative : Bool) (digits : Nat) (exponent : Int) : Binary64 :=
  let length : Int := (Nat.toDigits 10 digits).length
  if digits = 0 then .finite negative ⟨0, leastExponent⟩
  else if 400 < exponent + length then .infinite negative
  else if exponent + length < -400 then .finite negative ⟨0, leastExponent⟩
  else ofQuotient negative (digits * Nat.pow 10 exponent.toNat) (Nat.pow 10 (-exponent).toNat)

def isZero : Binary64 → Bool
  | .finite _ m => m.significand == 0
  | _ => false

/-- Less than zero; negative zero is not. -/
def isNegative : Binary64 → Bool
  | .nan => false
  | .infinite negative => negative
  | .finite negative m => negative && m.significand != 0

/-- The integer that the number is, if it is one. -/
def toInt? : Binary64 → Option Int
  | .finite negative m =>
    if m.num % m.den = 0 then
      let n : Int := (m.num / m.den : Nat)
      some (if negative then -n else n)
    else none
  | _ => none

/-- A signed multiple of `2 ^ exponent`; exact when `exponent` is at most the
exponent of the magnitude. -/
def atExponent (negative : Bool) (m : Magnitude) (exponent : Int) : Int :=
  let units : Int := (m.significand * Nat.pow 2 (m.exponent - exponent).toNat : Nat)
  if negative then -units else units

/-- Numeric equality, of finite numbers in a unit that is exact for both: the
two zeros are equal and nothing equals `nan`. -/
def numericEq : Binary64 → Binary64 → Bool
  | .infinite s, .infinite t => s == t
  | .finite s x, .finite t y =>
    let exponent := min x.exponent y.exponent
    atExponent s x exponent == atExponent t y exponent
  | _, _ => false

/-- Difference, rounded once. A zero difference is positive, except that
negative zero less positive zero stays negative. -/
def sub : Binary64 → Binary64 → Binary64
  | .nan, _ => .nan
  | _, .nan => .nan
  | .infinite s, .infinite t => if s = t then .nan else .infinite s
  | .infinite s, .finite .. => .infinite s
  | .finite .., .infinite t => .infinite !t
  | .finite s x, .finite t y =>
    let exponent := min x.exponent y.exponent
    let units := atExponent s x exponent - atExponent t y exponent
    if units = 0 then
      .finite (s && !t && x.significand == 0) ⟨0, leastExponent⟩
    else
      ofQuotient (units < 0) (units.natAbs * Nat.pow 2 exponent.toNat) (Nat.pow 2 (-exponent).toNat)

/-- The number divided by a positive natural. -/
def divNat (x : Binary64) (den : Nat) : Binary64 :=
  match x with
  | .finite negative m => ofQuotient negative m.num (m.den * den)
  | other => other

end Binary64

end AccessLog.Number
