import PromptClient.Number.Binary64
import PromptClient.Text.Decimal

/-! # Scientific notation

A sign, digits with at most one point among them, and a power of ten. At least
one digit must stand before the power. The value is the nearest floating-point
number; the names of infinities and of non-numbers are refused, and so is a value
beyond the largest number.
-/

namespace PromptClient.Number

open Text.Decimal

/-- A power of ten written after its letter; `none` if it is malformed. -/
private def power? : List Char → Option Int
  | [] => some 0
  | mark :: rest =>
      if mark = 'e' || mark = 'E' then
        match rest with
        | '+' :: digits => (natural? digits).map fun value => (value : Int)
        | '-' :: digits => (natural? digits).map fun value => -(value : Int)
        | digits => (natural? digits).map fun value => (value : Int)
      else none

/-- A magnitude without its sign. -/
private def magnitude? (negative : Bool) (input : List Char) : Option Binary64 := do
  let whole := input.takeWhile isDigit
  let afterWhole := input.dropWhile isDigit
  let (fraction, after) := match afterWhole with
    | '.' :: rest => (rest.takeWhile isDigit, rest.dropWhile isDigit)
    | other => ([], other)
  let coefficient ← natural? (whole ++ fraction)
  let power ← power? after
  Binary64.ofDecimal? negative coefficient (power - (fraction.length : Int))

def scientific? : List Char → Option Binary64
  | '-' :: rest => magnitude? true rest
  | '+' :: rest => magnitude? false rest
  | input => magnitude? false input

example : (scientific? ".5e1".toList).map Binary64.floor = some 5 := by decide +kernel

/-! ## How numbers are written -/

/-- A sign, which may be left out, and whether it is a minus. -/
inductive Sign : List Char → Bool → Prop
  | none : Sign [] false
  | plus : Sign ['+'] false
  | minus : Sign ['-'] true

/-- A power of ten, which may be left out. -/
inductive Power : List Char → Int → Prop
  | none : Power [] 0
  | some {mark : Char} {sign digits : List Char} {negative : Bool} {size : Nat}
      (marked : mark = 'e' ∨ mark = 'E') (signed : Sign sign negative)
      (read : natural? digits = Option.some size) :
      Power (mark :: (sign ++ digits)) (if negative then -(size : Int) else size)

/-- Digits without a sign, with or without a point among them, and a power. -/
inductive Unsigned : List Char → Nat → Int → Prop
  | whole {digits after : List Char} {coefficient : Nat} {power : Int}
      (read : natural? digits = some coefficient) (raised : Power after power) :
      Unsigned (digits ++ after) coefficient power
  | point {whole fraction after : List Char} {coefficient : Nat} {power : Int}
      (read : natural? (whole ++ fraction) = some coefficient) (raised : Power after power) :
      Unsigned (whole ++ '.' :: (fraction ++ after)) coefficient (power - (fraction.length : Int))

/-- The text stands for `± coefficient · 10 ^ power`. -/
inductive Spells : List Char → Bool → Nat → Int → Prop
  | signed {sign rest : List Char} {negative : Bool} {coefficient : Nat} {power : Int}
      (signed : Sign sign negative) (unsigned : Unsigned rest coefficient power) :
      Spells (sign ++ rest) negative coefficient power

/-- A power does not begin in a way that digits before it, or a point, could go on. -/
theorem Power.head {text : List Char} {power : Int} (raised : Power text power) :
    ∀ char ∈ text.head?, isDigit char = false ∧ char ≠ '.' := by
  intro char found
  cases raised with
  | none => cases found
  | some marked =>
      cases found
      rcases marked with rfl | rfl <;> decide

/-- A number without a sign begins with none. -/
theorem Unsigned.head {text : List Char} {coefficient : Nat} {power : Int}
    (unsigned : Unsigned text coefficient power) :
    ∀ char ∈ text.head?, char ≠ '-' ∧ char ≠ '+' := by
  have digit : ∀ char, isDigit char = true → char ≠ '-' ∧ char ≠ '+' := by
    intro char known
    constructor
    · rintro rfl
      exact absurd known (by decide)
    · rintro rfl
      exact absurd known (by decide)
  intro char found
  cases unsigned with
  | whole read raised =>
      rename_i digits after
      cases digits with
      | nil => cases read
      | cons first rest =>
          cases found
          exact digit char (natural?_forall read char List.mem_cons_self)
  | point read raised =>
      rename_i whole fraction after power
      cases whole with
      | nil =>
          cases found
          decide
      | cons first rest =>
          cases found
          exact digit char (natural?_forall read char List.mem_cons_self)

end PromptClient.Number
