import Mathlib.Tactic.Linarith
import Mathlib.Tactic.NormNum
import Mathlib.Tactic.Ring
import PromptClient.Proofs.Json
import PromptClient.Proofs.Rounding

/-! # Numbers in JSON

An integer of more than 64 bits is read as a floating-point number. Its first digits are kept, 60
bits of them at least, and the others are made up for by a power of ten, so that the number is as
far beyond 64 bits as the integer was. No number gets into a value but by being read from the
text. -/

namespace PromptClient.Text.Decimal

end PromptClient.Text.Decimal

namespace PromptClient.Json

open Number Text.Decimal

/-! ## The coefficient -/

/-- A whole part without a fraction or a power. -/
def whole? (negative : Bool) (coefficient dropped : ℕ) : Option Numeral :=
  if dropped > 0 then (realOf negative coefficient dropped).map .real
  else if !negative then some (.whole coefficient)
  else if coefficient = 0 || coefficient > 9223372036854775808 then
    (Binary64.ofRatio? true coefficient 1).map .real
  else some (.whole (-(coefficient : ℤ)))

/-- Without a point, there is a power or the number is over. -/
theorem afterWhole_eq (negative : Bool) (coefficient dropped : ℕ) (input : List Char) :
    (∀ rest, input ≠ '.' :: rest) → afterWhole negative coefficient dropped input =
      match input with
      | mark :: exponent =>
          if isExponentMark mark then withExponent negative coefficient dropped exponent
          else (whole? negative coefficient dropped).map fun numeral => (numeral, input)
      | [] => (whole? negative coefficient dropped).map fun numeral => (numeral, input) := by
  intro noPoint
  have ended : (whole? negative coefficient dropped).map (fun numeral => (numeral, input)) =
      if dropped > 0 then
        (realOf negative coefficient dropped).map fun value => (.real value, input)
      else if !negative then some (.whole coefficient, input)
      else if coefficient = 0 || coefficient > 9223372036854775808 then
        (Binary64.ofRatio? true coefficient 1).map fun value => (.real value, input)
      else some (.whole (-(coefficient : ℤ)), input) := by
    simp only [whole?]
    split
    · rw [Option.map_map]
      rfl
    · split
      · rfl
      · split
        · rw [Option.map_map]
          rfl
        · rfl
  cases input with
  | nil =>
      rw [afterWhole.eq_3]
      exact ended.symm
  | cons mark exponent =>
      rw [afterWhole.eq_2 _ _ _ _ _ noPoint, ended]

/-- What an integer is read as: itself within 64 bits, and otherwise itself or a number that is
on the same side of them. A zero with a minus is no integer, but a number of no size. -/
inductive Stands (negative : Bool) (size : ℕ) : Numeral → Prop
  | whole (small : size ≤ coefficientLimit) :
      Stands negative size (.whole (signedInt negative size))
  | zero {number : Binary64} (none : size = 0) (nothing : number.magnitude = 0) :
      Stands negative size (.real number)
  | beyond {number : Binary64} (large : 2 ^ 63 ≤ size) (sign : number.negative = negative)
      (as_large : 2 ^ 63 ≤ number.magnitude) : Stands negative size (.real number)

end PromptClient.Json
