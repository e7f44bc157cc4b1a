import PromptClient.Cookie

/-! # The written form of a cookie

A cookie is kept as a JSON object with the members `value` and `expires`. Reading
also takes the two values as an array, skips members of other names without
judging their numbers and surrogates, and refuses a member that occurs twice.
-/

namespace PromptClient.Cookie

open Json

def write (cookie : Cookie) : String :=
  Json.indentedObject
    [("value", .text cookie.value),
      ("expires", match cookie.expires with
        | none => .null
        | some time => .number (.whole time))]

/-! ## Skipping values -/

/-- What follows the closing quote of a text whose escapes need only have the right
shape. -/
def afterText? : List Char → Option (List Char)
  | [] => none
  | '"' :: rest => some rest
  | '\\' :: 'u' :: a :: b :: c :: d :: rest =>
      if (hexUnit? a b c d).isSome then afterText? rest else none
  | '\\' :: letter :: rest =>
      if (shortEscape? letter).isSome then afterText? rest else none
  | char :: rest =>
      if char = '\\' || char.toNat < 32 then none else afterText? rest

/-- What follows one digit or more. -/
def afterDigits? (input : List Char) : Option (List Char) :=
  let after := input.dropWhile Text.Decimal.isDigit
  if after.length < input.length then some after else none

/-- What follows an exponent part, if there is one. -/
def afterExponent? : List Char → Option (List Char)
  | mark :: rest =>
      if isExponentMark mark then
        match rest with
        | '+' :: digits => afterDigits? digits
        | '-' :: digits => afterDigits? digits
        | digits => afterDigits? digits
      else some (mark :: rest)
  | [] => some []

/-- What follows a number of any size. -/
def afterNumber? (input : List Char) : Option (List Char) := do
  let unsigned := match input with
    | '-' :: rest => rest
    | other => other
  let after ← match unsigned with
    | '0' :: next :: rest =>
        if Text.Decimal.isDigit next then none else some (next :: rest)
    | other => afterDigits? other
  match after with
  | '.' :: rest => do
      let after ← afterDigits? rest
      afterExponent? after
  | other => afterExponent? other

/-- A container that has been opened but not closed. -/
inductive Opened
  | array
  | object
deriving DecidableEq

/-- Where the skipping of a value stands. -/
inductive Place
  | value
  /-- A value is due, or the end of the array just opened. -/
  | firstItem
  /-- A name is due. -/
  | name
  /-- A name is due, or the end of the object just opened. -/
  | firstName
  | ended
deriving DecidableEq

/-- What follows the value that is being skipped, with the containers open around
the place reached, innermost first. -/
def skip : (fuel : Nat) → Place → List Opened → List Char → Option (List Char)
  | 0, _, _, _ => none
  | fuel + 1, place, opened, input =>
      let scalar (after : Option (List Char)) : Option (List Char) :=
        after.bind fun rest => skip fuel .ended opened rest
      let value (input : List Char) : Option (List Char) :=
        match input with
        | 'n' :: rest => scalar (afterWord? ['u', 'l', 'l'] rest)
        | 't' :: rest => scalar (afterWord? ['r', 'u', 'e'] rest)
        | 'f' :: rest => scalar (afterWord? ['a', 'l', 's', 'e'] rest)
        | '"' :: rest => scalar (afterText? rest)
        | '[' :: rest => skip fuel .firstItem (.array :: opened) rest
        | '\x7b' :: rest => skip fuel .firstName (.object :: opened) rest
        | other => scalar (afterNumber? other)
      let name (input : List Char) : Option (List Char) :=
        match input with
        | '"' :: rest => do
            let after ← afterText? rest
            match skipSpace after with
            | ':' :: rest => skip fuel .value opened rest
            | _ => none
        | _ => none
      match place, opened with
      | .ended, [] => some input
      | .ended, .array :: outer =>
          match skipSpace input with
          | ',' :: rest => skip fuel .value opened rest
          | ']' :: rest => skip fuel .ended outer rest
          | _ => none
      | .ended, .object :: outer =>
          match skipSpace input with
          | ',' :: rest => skip fuel .name opened rest
          | '\x7d' :: rest => skip fuel .ended outer rest
          | _ => none
      | .firstItem, _ =>
          match skipSpace input with
          | ']' :: rest => skip fuel .ended opened.tail rest
          | other => value other
      | .firstName, _ =>
          match skipSpace input with
          | '\x7d' :: rest => skip fuel .ended opened.tail rest
          | other => name other
      | .name, _ => name (skipSpace input)
      | .value, _ => value (skipSpace input)

def afterValue? (input : List Char) : Option (List Char) :=
  skip (2 * input.length + 2) .value [] input

/-! ## Reading -/

/-- An expiry: `null`, or an integer of 64 bits. -/
def expiry? (input : List Char) : Option (Option Int × List Char) :=
  match skipSpace input with
  | 'n' :: rest => (afterWord? ['u', 'l', 'l'] rest).map fun after => (none, after)
  | other =>
      match number? other with
      | some (.whole time, after) =>
          if Number.fitsInt64 time then some (some time, after) else none
      | _ => none

/-- The members read so far. -/
structure Found where
  value : Option String
  expires : Option (Option Int)

/-- The members of an object up to its closing brace, at least one of which is to
come. -/
def membersFrom : (fuel : Nat) → Found → List Char → Option (Found × List Char)
  | 0, _, _ => none
  | fuel + 1, done, input => do
      let (name, after) ← text? (skipSpace input)
      let valueAt ← match skipSpace after with
        | ':' :: rest => some rest
        | _ => none
      let (done, after) ←
        if name = "value" then
          if done.value.isSome then none
          else (text? (skipSpace valueAt)).map fun (value, after) =>
            ({ done with value := some value }, after)
        else if name = "expires" then
          if done.expires.isSome then none
          else (expiry? valueAt).map fun (time, after) =>
            ({ done with expires := some time }, after)
        else (afterValue? valueAt).map fun after => (done, after)
      match skipSpace after with
      | '\x7d' :: rest => some (done, rest)
      | ',' :: rest => membersFrom fuel done rest
      | _ => none

def cookieAt (input : List Char) : Option (Cookie × List Char) :=
  match skipSpace input with
  | '[' :: rest => do
      let (value, after) ← text? (skipSpace rest)
      let timeAt ← match skipSpace after with
        | ',' :: rest => some rest
        | _ => none
      let (time, after) ← expiry? timeAt
      match skipSpace after with
      | ']' :: rest => some (⟨value, time⟩, rest)
      | _ => none
  | '\x7b' :: rest =>
      match skipSpace rest with
      | '\x7d' :: _ => none
      | other => do
          let (done, after) ← membersFrom other.length ⟨none, none⟩ other
          let value ← done.value
          some (⟨value, done.expires.getD none⟩, after)
  | _ => none

def read? (text : String) : Option Cookie := do
  let (cookie, after) ← cookieAt text.toList
  if (skipSpace after).isEmpty then some cookie else none

end PromptClient.Cookie
