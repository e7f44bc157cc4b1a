import Mathlib.Algebra.Order.Field.Power
import Mathlib.Data.Rat.Floor
import Mathlib.Tactic.FieldSimp
import Mathlib.Tactic.GCongr
import Mathlib.Tactic.Linarith
import Mathlib.Tactic.NormNum
import Mathlib.Tactic.Positivity
import Mathlib.Tactic.Ring
import PromptClient.Number.Binary64

/-! # What rounding does to a ratio

A ratio is brought to a mantissa of 53 bits and rounded. Powers of two are never crossed on the
way, so what lies beyond one of them lies there afterwards as well; and a ratio has no number next
to it exactly if it is at least half a step above the largest one. A decimal is such a ratio, or so
large or so small that this is clear without rounding. -/

namespace PromptClient.Number

/-! ## Quotients -/

section Quotients

variable {numerator denominator : ℕ}

end Quotients

namespace Binary64

/-! ## Numbers as ratios -/

/-- The number without its sign. -/
def magnitude (number : Binary64) : ℚ :=
  number.mantissa * 2 ^ number.exponent

theorem two_zpow_pos (exponent : ℤ) : (0 : ℚ) < 2 ^ exponent :=
  zpow_pos (by norm_num) exponent

/-- A ratio that is too small for 53 bits has the least exponent, and every other one has
all of them. -/
structure Fitting (ratio : ℚ) (exponent : ℤ) : Prop where
  below : ratio / 2 ^ exponent < 2 ^ 53
  above : exponent = minExponent ∨ 2 ^ 52 ≤ ratio / 2 ^ exponent
  least : minExponent ≤ exponent

/-- A mantissa next to a ratio at an exponent that fits. No whole number is crossed, and half a
step below 53 bits the mantissa has one bit more. -/
structure Rounded (ratio : ℚ) (exponent : ℤ) (mantissa : ℕ) : Prop where
  fitting : Fitting ratio exponent
  atLeast : ∀ least : ℕ, (least : ℚ) ≤ ratio / 2 ^ exponent → least ≤ mantissa
  atMost : ∀ most : ℕ, ratio / 2 ^ exponent ≤ most → mantissa ≤ most
  carries : mantissa = 2 ^ 53 ↔ 2 ^ 53 - 1 / 2 ≤ ratio / 2 ^ exponent

namespace Rounded

variable {ratio : ℚ} {exponent : ℤ} {mantissa : ℕ}

/-- From one on, rounding up adds at most one part in `2 ^ 52`. -/
theorem close (rounded : Rounded ratio exponent mantissa) (enough : 1 ≤ ratio) :
    (mantissa : ℚ) * 2 ^ exponent ≤ ratio * (1 + 1 / 2 ^ 52) := by
  have step := two_zpow_pos exponent
  have next : (mantissa : ℚ) ≤ ratio / 2 ^ exponent + 1 := by
    have positive : 0 ≤ ratio / 2 ^ exponent := div_nonneg (by linarith) step.le
    have few : mantissa ≤ ⌈ratio / 2 ^ exponent⌉₊ := rounded.atMost _ (Nat.le_ceil _)
    calc
      (mantissa : ℚ) ≤ ⌈ratio / 2 ^ exponent⌉₊ := by exact_mod_cast few
      _ ≤ ratio / 2 ^ exponent + 1 := (Nat.ceil_lt_add_one positive).le
  have full : 2 ^ 52 * (2 : ℚ) ^ exponent ≤ ratio := by
    rcases rounded.fitting.above with least | full
    · have small : (2 : ℚ) ^ 52 * 2 ^ minExponent ≤ 1 := by
        rw [minExponent, ← zpow_natCast, ← zpow_add₀ two_ne_zero]
        exact zpow_le_one_of_nonpos₀ one_le_two (by norm_num)
      rw [least]
      exact small.trans enough
    · rwa [le_div_iff₀ step] at full
  calc
    (mantissa : ℚ) * 2 ^ exponent ≤ (ratio / 2 ^ exponent + 1) * 2 ^ exponent := by gcongr
    _ = ratio + 2 ^ exponent := by rw [add_mul, div_mul_cancel₀ _ step.ne', one_mul]
    _ ≤ ratio * (1 + 1 / 2 ^ 52) := by linarith

end Rounded

/-- What a number that is made from a ratio has in common with it. -/
structure Follows (number : Binary64) (negative : Bool) (ratio : ℚ) : Prop where
  negative : number.negative = negative
  above : ∀ power : ℕ, 2 ^ power ≤ ratio → 2 ^ power ≤ number.magnitude
  close : 1 ≤ ratio → number.magnitude ≤ ratio * (1 + 1 / 2 ^ 52)

end Binary64

/-! ## Bounds of 64 bits -/

/-- An integer from its sign and its size. -/
def signedInt (negative : Bool) (size : ℕ) : ℤ :=
  if negative then -(size : ℤ) else size

end PromptClient.Number
