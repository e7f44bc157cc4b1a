/-! # Binary floating-point numbers

The finite numbers of the 64-bit binary format as exact values
`± mantissa · 2 ^ exponent`, with rounding to the nearest such number, ties going
to the even mantissa. Everything is computed on integers, so a law about rounding
is a law about natural numbers.
-/

namespace PromptClient.Number

/-- A finite number of the format: `mantissa < 2 ^ 53` and `-1074 ≤ exponent ≤ 971`. -/
structure Binary64 where
  negative : Bool
  mantissa : Nat
  exponent : Int
deriving DecidableEq, Repr, Inhabited

/-- The quotient rounded to the nearest natural number, a half to the even one. -/
def roundedQuotient (numerator denominator : Nat) : Nat :=
  let quotient := numerator / denominator
  let twice := 2 * (numerator % denominator)
  if twice < denominator then quotient
  else if twice = denominator then quotient + quotient % 2
  else quotient + 1

namespace Binary64

def zero (negative : Bool) : Binary64 :=
  ⟨negative, 0, -1074⟩

/-- The least exponent, that of the numbers next to zero. -/
def minExponent : Int := -1074

/-- The greatest exponent. -/
def maxExponent : Int := 971

/-- `numerator / (denominator · 2 ^ exponent)` as a ratio of natural numbers. -/
def scaled (numerator denominator : Nat) (exponent : Int) : Nat × Nat :=
  if exponent < 0 then (numerator * Nat.pow 2 exponent.natAbs, denominator)
  else (numerator, denominator * Nat.pow 2 exponent.toNat)

/-- The exponent at which a positive ratio has a mantissa of 53 bits, or the least
exponent where the format has no such mantissa. -/
def exponentFor (numerator denominator : Nat) : Int :=
  let guess : Int := (numerator.log2 : Int) - (denominator.log2 : Int) - 52
  let (above, below) := scaled numerator denominator guess
  let fitting := if above < Nat.pow 2 52 * below then guess - 1 else guess
  max fitting minExponent

/-- The number of the format nearest to a ratio; `none` beyond the largest one. -/
def ofRatio? (negative : Bool) (numerator denominator : Nat) : Option Binary64 :=
  if numerator = 0 then some (zero negative)
  else
    let exponent := exponentFor numerator denominator
    let (above, below) := scaled numerator denominator exponent
    let mantissa := roundedQuotient above below
    let rounded : Binary64 :=
      if mantissa = Nat.pow 2 53 then ⟨negative, Nat.pow 2 52, exponent + 1⟩
      else ⟨negative, mantissa, exponent⟩
    if rounded.exponent > maxExponent then none else some rounded

/-- The nearest number to `coefficient · 10 ^ power`. Powers so large or so small
that the answer is clear are not computed; the digits of the coefficient are counted
from below for the one and from above for the other. -/
def ofDecimal? (negative : Bool) (coefficient : Nat) (power : Int) : Option Binary64 :=
  let least : Int := (coefficient.log2 * 30102 / 100000 : Nat)
  let most : Int := (coefficient.log2 * 30103 / 100000 : Nat)
  if coefficient = 0 then some (zero negative)
  else if least + power > 310 then none
  else if most + power < -330 then some (zero negative)
  else if power < 0 then ofRatio? negative coefficient (Nat.pow 10 power.natAbs)
  else ofRatio? negative (coefficient * Nat.pow 10 power.toNat) 1

def ratio (number : Binary64) : Nat × Nat :=
  if number.exponent < 0 then (number.mantissa, Nat.pow 2 number.exponent.natAbs)
  else (number.mantissa * Nat.pow 2 number.exponent.toNat, 1)

/-- The product, rounded; the sign is that of the first factor. -/
def scaleUp? (number factor : Binary64) : Option Binary64 :=
  let (above, below) := number.ratio
  let (factorAbove, factorBelow) := factor.ratio
  ofRatio? number.negative (above * factorAbove) (below * factorBelow)

/-- The quotient, rounded; the sign is that of the dividend. -/
def scaleDown? (number divisor : Binary64) : Option Binary64 :=
  let (above, below) := number.ratio
  let (divisorAbove, divisorBelow) := divisor.ratio
  ofRatio? number.negative (above * divisorBelow) (below * divisorAbove)

/-- The largest integer that is not above the number. -/
def floor (number : Binary64) : Int :=
  let (above, below) := number.ratio
  if number.negative then -(((above + below - 1) / below : Nat) : Int)
  else ((above / below : Nat) : Int)

example : (ofRatio? true 5 2).map floor = some (-3) := by decide +kernel

end Binary64

/-! ## Signed 64-bit bounds -/

/-- The least and the greatest signed 64-bit integer. -/
def minInt64 : Int := -9223372036854775808
def maxInt64 : Int := 9223372036854775807

def fitsInt64 (value : Int) : Bool :=
  decide (minInt64 ≤ value) && decide (value ≤ maxInt64)

/-- The signed 64-bit integer nearest to `value`. -/
def clampInt64 (value : Int) : Int :=
  max minInt64 (min maxInt64 value)

end PromptClient.Number
