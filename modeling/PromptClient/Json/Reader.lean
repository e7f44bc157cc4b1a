import PromptClient.Json.Basic

/-! # Reading JSON

Each reader takes the characters from where its part starts and returns what it
read with the characters that follow. Nesting is limited, a lone surrogate is
refused, and an integer too large for 64 bits is read as a floating-point number.
-/

namespace PromptClient.Json

open Number Text.Decimal

def isSpace (char : Char) : Bool :=
  char = ' ' || char = '\n' || char = '\t' || char = '\r'

def skipSpace (input : List Char) : List Char :=
  input.dropWhile isSpace

def afterWord? : (word : List Char) → (input : List Char) → Option (List Char)
  | [], input => some input
  | expected :: word, char :: input => if char = expected then afterWord? word input else none
  | _ :: _, [] => none

/-! ## Texts -/

def hexValue? (char : Char) : Option Nat :=
  let code := char.toNat
  if 48 ≤ code && code ≤ 57 then some (code - 48)
  else if 65 ≤ code && code ≤ 70 then some (code - 55)
  else if 97 ≤ code && code ≤ 102 then some (code - 87)
  else none

def hexUnit? (a b c d : Char) : Option Nat := do
  let first ← hexValue? a
  let second ← hexValue? b
  let third ← hexValue? c
  let fourth ← hexValue? d
  some (((first * 16 + second) * 16 + third) * 16 + fourth)

def shortEscape? (char : Char) : Option Char :=
  if char = '"' then some '"'
  else if char = '\\' then some '\\'
  else if char = '/' then some '/'
  else if char = 'b' then some (Char.ofNat 8)
  else if char = 'f' then some (Char.ofNat 12)
  else if char = 'n' then some (Char.ofNat 10)
  else if char = 'r' then some (Char.ofNat 13)
  else if char = 't' then some (Char.ofNat 9)
  else none

/-- The first half of a surrogate pair. -/
def isHighSurrogate (unit : Nat) : Bool := 0xD800 ≤ unit && unit ≤ 0xDBFF

def isLowSurrogate (unit : Nat) : Bool := 0xDC00 ≤ unit && unit ≤ 0xDFFF

def ofSurrogates (high low : Nat) : Char :=
  Char.ofNat (0x10000 + (high - 0xD800) * 1024 + (low - 0xDC00))

/-- The characters of a text up to its closing quote; the opening quote has been
read. -/
def textBody : List Char → Option (List Char × List Char)
  | [] => none
  | '"' :: rest => some ([], rest)
  | '\\' :: 'u' :: a :: b :: c :: d :: rest => do
      let unit ← hexUnit? a b c d
      if isLowSurrogate unit then none
      else if isHighSurrogate unit then
        match rest with
        | '\\' :: 'u' :: e :: f :: g :: h :: rest =>
            let low ← hexUnit? e f g h
            if isLowSurrogate low then
              let (body, after) ← textBody rest
              some (ofSurrogates unit low :: body, after)
            else none
        | _ => none
      else
        let (body, after) ← textBody rest
        some (Char.ofNat unit :: body, after)
  | '\\' :: letter :: rest => do
      let char ← shortEscape? letter
      let (body, after) ← textBody rest
      some (char :: body, after)
  | char :: rest =>
      if char = '\\' || char.toNat < 32 then none
      else do
        let (body, after) ← textBody rest
        some (char :: body, after)

def text? : List Char → Option (String × List Char)
  | '"' :: rest => (textBody rest).map fun (body, after) => (String.ofList body, after)
  | _ => none

/-! ## Numbers -/

/-- The largest coefficient that is kept exactly. -/
def coefficientLimit : Nat := 18446744073709551615

/-- Extend a coefficient by digits as long as it stays within the limit. The
second part counts the digits that were left out. -/
def extend (coefficient : Nat) : List Char → Nat × Nat
  | [] => (coefficient, 0)
  | char :: rest =>
      let next := coefficient * 10 + (char.toNat - 48)
      if next > coefficientLimit then (coefficient, rest.length + 1) else extend next rest

/-- The number of the format nearest to a power of ten with at most 308 zeros. -/
@[irreducible] def powerOfTen (zeros : Nat) : Binary64 :=
  (Binary64.ofRatio? false (Nat.pow 10 zeros) 1).getD (Binary64.zero false)

/-- `value · 10 ^ power` by one rounded multiplication or by rounded divisions;
`none` if it is too large. -/
def scaleByTen (value : Binary64) : (steps : Nat) → (power : Int) → Option Binary64
  | 0, _ => some value
  | steps + 1, power =>
      if power.natAbs ≤ 308 then
        if power ≥ 0 then value.scaleUp? (powerOfTen power.natAbs)
        else value.scaleDown? (powerOfTen power.natAbs)
      else if value.mantissa = 0 then some value
      else if power ≥ 0 then none
      else match value.scaleDown? (powerOfTen 308) with
        | some smaller => scaleByTen smaller steps (power + 308)
        | none => none

/-- `coefficient · 10 ^ power` as a floating-point number. -/
def realOf (negative : Bool) (coefficient : Nat) (power : Int) : Option Binary64 :=
  match Binary64.ofRatio? negative coefficient 1 with
  | some value => scaleByTen value (power.natAbs / 308 + 1) power
  | none => none

/-- Exponents beyond this many are not computed. -/
def exponentLimit : Nat := 2147483647

/-- The value of an exponent part whose letter has been read: what the coefficient
and the power before it come to. -/
def withExponent (negative : Bool) (coefficient : Nat) (power : Int) (input : List Char) :
    Option (Numeral × List Char) := do
  let (down, digitsOn) := match input with
    | '+' :: rest => (false, rest)
    | '-' :: rest => (true, rest)
    | other => (false, other)
  let digits := digitsOn.takeWhile isDigit
  let after := digitsOn.dropWhile isDigit
  let size ← natural? digits
  if size > exponentLimit then
    if coefficient ≠ 0 && !down then none
    else some (.real (Binary64.zero negative), after)
  else
    let total := if down then power - (size : Int) else power + (size : Int)
    let value ← realOf negative coefficient total
    some (.real value, after)

def isExponentMark (char : Char) : Bool :=
  char = 'e' || char = 'E'

/-- The rest of a number after its whole part, `dropped` digits of which did not
fit into the coefficient. -/
def afterWhole (negative : Bool) (coefficient dropped : Nat) :
    List Char → Option (Numeral × List Char)
  | '.' :: rest => do
      let digits := rest.takeWhile isDigit
      let after := rest.dropWhile isDigit
      if digits.isEmpty then none
      let (extended, unread) := extend coefficient digits
      let power : Int := (dropped : Int) - ((digits.length - unread : Nat) : Int)
      match after with
      | mark :: exponent =>
          if isExponentMark mark then withExponent negative extended power exponent
          else do
            let value ← realOf negative extended power
            some (.real value, after)
      | [] => do
          let value ← realOf negative extended power
          some (.real value, after)
  | input => do
      let whole : Option (Numeral × List Char) :=
        if dropped > 0 then
          (realOf negative coefficient dropped).map fun value => (.real value, input)
        else if !negative then some (.whole coefficient, input)
        else if coefficient = 0 || coefficient > 9223372036854775808 then
          (Binary64.ofRatio? true coefficient 1).map fun value => (.real value, input)
        else some (.whole (-(coefficient : Int)), input)
      match input with
      | mark :: exponent =>
          if isExponentMark mark then withExponent negative coefficient dropped exponent
          else whole
      | [] => whole

/-- A number; a zero may not be followed by another digit. -/
def number? (input : List Char) : Option (Numeral × List Char) :=
  let (negative, unsigned) := match input with
    | '-' :: rest => (true, rest)
    | other => (false, other)
  let digits := unsigned.takeWhile isDigit
  let after := unsigned.dropWhile isDigit
  match digits with
  | [] => none
  | '0' :: _ :: _ => none
  | _ =>
      let (coefficient, dropped) := extend 0 digits
      afterWhole negative coefficient dropped after

/-! ## Values -/

/-- How deep containers may be nested. -/
def depthLimit : Nat := 127

mutual

/-- A value at the front of `input`, which may start with blanks. `fuel` bounds the
number of readings, `depth` the containers that may still be opened. -/
def readValue : (fuel depth : Nat) → List Char → Option (Json × List Char)
  | 0, _, _ => none
  | fuel + 1, depth, input =>
      match skipSpace input with
      | 'n' :: rest => (afterWord? ['u', 'l', 'l'] rest).map fun after => (.null, after)
      | 't' :: rest => (afterWord? ['r', 'u', 'e'] rest).map fun after => (.bool true, after)
      | 'f' :: rest =>
          (afterWord? ['a', 'l', 's', 'e'] rest).map fun after => (.bool false, after)
      | '"' :: rest =>
          (textBody rest).map fun (body, after) => (.text (String.ofList body), after)
      | '[' :: rest =>
          match depth with
          | 0 => none
          | depth + 1 =>
              match skipSpace rest with
              | ']' :: after => some (.array [], after)
              | other => (readItems fuel depth other).map fun (items, after) =>
                  (.array items, after)
      | '\x7b' :: rest =>
          match depth with
          | 0 => none
          | depth + 1 =>
              match skipSpace rest with
              | '\x7d' :: after => some (.object [], after)
              | other => (readMembers fuel depth other).map fun (members, after) =>
                  (.object members, after)
      | other => (number? other).map fun (value, after) => (.number value, after)

def readItems : (fuel depth : Nat) → List Char → Option (List Json × List Char)
  | 0, _, _ => none
  | fuel + 1, depth, input => do
      let (item, after) ← readValue fuel depth input
      match skipSpace after with
      | ']' :: rest => some ([item], rest)
      | ',' :: rest => do
          let (items, rest) ← readItems fuel depth rest
          some (item :: items, rest)
      | _ => none

def readMembers : (fuel depth : Nat) → List Char → Option (List (String × Json) × List Char)
  | 0, _, _ => none
  | fuel + 1, depth, input => do
      let (name, after) ← text? (skipSpace input)
      match skipSpace after with
      | ':' :: rest => do
          let (value, after) ← readValue fuel depth rest
          match skipSpace after with
          | '\x7d' :: rest => some ([(name, value)], rest)
          | ',' :: rest => do
              let (members, rest) ← readMembers fuel depth rest
              some ((name, value) :: members, rest)
          | _ => none
      | _ => none

end

/-- The value that a text is, blanks around it allowed. -/
def ofChars? (input : List Char) : Option Json := do
  let (value, after) ← readValue (2 * input.length + 2) depthLimit input
  if (skipSpace after).isEmpty then some value else none

def parse? (text : String) : Option Json :=
  ofChars? text.toList

end PromptClient.Json
