import PromptClient.Number.Scientific
import PromptClient.Toml.Text

/-! # TOML numbers

Digits may be grouped by single underscores. A whole number fits into 64 bits, and
a decimal one starts with a zero only if that is all of it.
-/

namespace PromptClient.Toml

open PromptClient.Number Text.Decimal

/-- Digits with single underscores between them: the digits alone and what follows.
`none` if there is none, or if an underscore is not followed by one. -/
def grouped? (digit : Char → Bool) : List Char → Option (List Char × List Char)
  | [] => none
  | first :: rest => if digit first then more [first] rest else none
where
  /-- Digits after those in `before`, which are in reverse. -/
  more (before : List Char) : List Char → Option (List Char × List Char)
    | [] => some (before.reverse, [])
    | '_' :: next :: rest => if digit next then more (next :: before) rest else none
    | char :: rest =>
        if digit char then more (char :: before) rest
        else if char = '_' then none
        else some (before.reverse, char :: rest)

def sign : List Char → Bool × List Char
  | '-' :: rest => (true, rest)
  | '+' :: rest => (false, rest)
  | input => (false, input)

def bounded? (value : Int) : Option Toml :=
  if fitsInt64 value then some (.integer value) else none

def valueToBase (base : Nat) (digits : List Char) : Nat :=
  digits.foldl (fun value digit => value * base + (Text.Percent.hexValue? digit).getD 0) 0

/-- A digit to a base of at most sixteen. -/
def isDigitTo (base : Nat) (char : Char) : Bool :=
  match Text.Percent.hexValue? char with
  | some value => value < base
  | none => false

/-- A whole number to another base, after the letter that names it. -/
def integerToBase? (base : Nat) (input : List Char) : Option (Toml × List Char) := do
  let (digits, after) ← grouped? (isDigitTo base) input
  let value ← bounded? (valueToBase base digits)
  some (value, after)

def wholePart? : List Char → Option (List Char × List Char)
  | '0' :: rest => some (['0'], rest)
  | input => grouped? isDigit input

/-- The power of ten after its letter, with its letter. -/
def powerPart? (input : List Char) : Option (List Char × List Char) := do
  let (negative, digitsOn) := sign input
  let (digits, after) ← grouped? isDigit digitsOn
  some ('e' :: (if negative then '-' else '+') :: digits, after)

/-- A number with a point or a power. Only one that is too large upwards is refused. -/
def real? (negative : Bool) (written : List Char) : Option Toml :=
  if negative || (scientific? written).isSome then some .real else none

def isPowerMark (char : Char) : Bool :=
  char = 'e' || char = 'E'

def afterWhole? (negative : Bool) (whole : List Char) : List Char → Option (Toml × List Char)
  | '.' :: rest => do
      let (fraction, after) ← grouped? isDigit rest
      match after with
      | mark :: more =>
          if isPowerMark mark then
            let (power, after) ← powerPart? more
            let value ← real? negative (whole ++ '.' :: fraction ++ power)
            some (value, after)
          else some (.real, after)
      | [] => some (.real, [])
  | mark :: rest =>
      if isPowerMark mark then do
        let (power, after) ← powerPart? rest
        let value ← real? negative (whole ++ power)
        some (value, after)
      else integer (mark :: rest)
  | [] => integer []
where
  /-- There is only a whole part. -/
  integer (after : List Char) : Option (Toml × List Char) := do
    let value := (valueToBase 10 whole : Int)
    let value ← bounded? (if negative then -value else value)
    some (value, after)

def number? : List Char → Option (Toml × List Char)
  | '0' :: 'x' :: rest => integerToBase? 16 rest
  | '0' :: 'o' :: rest => integerToBase? 8 rest
  | '0' :: 'b' :: rest => integerToBase? 2 rest
  | input =>
      match sign input with
      | (_, 'i' :: 'n' :: 'f' :: rest) => some (.real, rest)
      | (_, 'n' :: 'a' :: 'n' :: rest) => some (.real, rest)
      | (negative, unsigned) => do
          let (whole, after) ← wholePart? unsigned
          afterWhole? negative whole after

end PromptClient.Toml
