import PromptClient.Number.Binary64

/-! # Shortest decimal

Among the decimals that round to a given binary number, the one with the fewest
digits; of several, the nearest. For each digit count only the two neighbours of
the number on that decimal grid can qualify.
-/

namespace PromptClient.Number.Binary64

/-- The open interval of reals that round to a positive number, as numerators over
one denominator: lower end, the number itself, upper end. -/
private def roundingInterval (number : Binary64) : Nat × Nat × Nat × Nat :=
  let lowerGap :=
    if number.mantissa = Nat.pow 2 52 && number.exponent > minExponent then 1 else 2
  let quarter (units : Nat) : Nat × Nat :=
    if number.exponent < 2 then (units, Nat.pow 2 (number.exponent - 2).natAbs)
    else (units * Nat.pow 2 (number.exponent - 2).toNat, 1)
  let (middle, denominator) := quarter (4 * number.mantissa)
  let (low, _) := quarter (4 * number.mantissa - lowerGap)
  let (high, _) := quarter (4 * number.mantissa + 2)
  (low, middle, high, denominator)

/-- `coefficient · 10 ^ power` as a ratio. -/
private def decimalRatio (coefficient : Nat) (power : Int) : Nat × Nat :=
  if power < 0 then (coefficient, Nat.pow 10 power.natAbs)
  else (coefficient * Nat.pow 10 power.toNat, 1)

/-- The greatest power of ten not above a positive ratio, searched upwards from
an estimate that is not too high. -/
private def leadingPower (above below : Nat) : (steps : Nat) → (estimate : Int) → Int
  | 0, estimate => estimate
  | steps + 1, estimate =>
      let (powerAbove, powerBelow) := decimalRatio 1 (estimate + 1)
      if powerAbove * below ≤ above * powerBelow then
        leadingPower above below steps (estimate + 1)
      else estimate

/-- The qualifying decimal with `count` digits after the leading power, if any. -/
private def candidate? (number : Binary64) (power : Int) : Option Nat :=
  let (low, middle, high, denominator) := roundingInterval number
  let (unitAbove, unitBelow) := decimalRatio 1 power
  let floor := (middle * unitBelow) / (denominator * unitAbove)
  let even := number.mantissa % 2 = 0
  let inside (coefficient : Nat) : Bool :=
    let value := coefficient * unitAbove * denominator
    let lower := low * unitBelow
    let upper := high * unitBelow
    (lower < value || (even && lower = value)) && (value < upper || (even && value = upper))
  let distance (coefficient : Nat) : Nat :=
    ((coefficient * unitAbove * denominator : Int) - (middle * unitBelow : Int)).natAbs
  match inside floor && floor > 0, inside (floor + 1) with
  | true, true =>
      if distance floor < distance (floor + 1) then some floor
      else if distance (floor + 1) < distance floor then some (floor + 1)
      else some (floor + floor % 2)
  | true, false => some floor
  | false, true => some (floor + 1)
  | false, false => none

/-- Drop the trailing zeros of a coefficient, raising the power instead. -/
private def dropZeros : (steps : Nat) → Nat → Int → Nat × Int
  | 0, coefficient, power => (coefficient, power)
  | steps + 1, coefficient, power =>
      if coefficient % 10 = 0 && coefficient > 0 then
        dropZeros steps (coefficient / 10) (power + 1)
      else (coefficient, power)

/-- Try digit counts from `count` on, `tries` of them. -/
private def search (number : Binary64) (leading : Int) : (tries count : Nat) → Nat × Int
  | 0, _ => (number.mantissa, 0)
  | tries + 1, count =>
      let power := leading - (count : Int)
      match candidate? number power with
      | some coefficient => dropZeros 20 coefficient power
      | none => search number leading tries (count + 1)

/-- Coefficient and power of ten of the shortest decimal of a number's magnitude. -/
def shortest (number : Binary64) : Nat × Int :=
  if number.mantissa = 0 then (0, 0)
  else
    let (above, below) := number.ratio
    let estimate := ((above.log2 : Int) - (below.log2 : Int)) * 30103 / 100000 - 1
    search number (leadingPower above below 4 estimate) 18 0

example : shortest ⟨false, 1, -1074⟩ = (5, -324) := by decide +kernel

end PromptClient.Number.Binary64
