import PromptClient.Text.Percent
import PromptClient.Toml.Basic

/-! # TOML texts and keys

Readers return what they read with the characters that follow.
-/

namespace PromptClient.Toml

def isSpace (char : Char) : Bool :=
  char = ' ' || char = '\t'

/-- The characters after the blanks at the front. -/
def skipSpace (input : List Char) : List Char :=
  input.dropWhile isSpace

def afterLineEnd? : List Char → Option (List Char)
  | '\n' :: rest => some rest
  | '\r' :: '\n' :: rest => some rest
  | _ => none

/-- A character that may stand in a comment and, unless it ends the text, in a text:
a tab, or anything that is not a control character of ASCII. -/
def isPrintable (char : Char) : Bool :=
  char = '\t' || (char.toNat ≥ 32 && char.toNat ≠ 127)

def hexValueFrom? (start : Nat) : List Char → Option Nat
  | [] => some start
  | char :: rest =>
      match Text.Percent.hexValue? char with
      | some value => hexValueFrom? (start * 16 + value) rest
      | none => none

def scalar? (digits : List Char) : Option Char := do
  let code ← hexValueFrom? 0 digits
  if code < 0xD800 || (0xDFFF < code && code < 0x110000) then some (Char.ofNat code) else none

/-- What follows a backslash: the character it stands for. -/
def escape? : List Char → Option (Char × List Char)
  | 'u' :: a :: b :: c :: d :: rest => (scalar? [a, b, c, d]).map fun char => (char, rest)
  | 'U' :: a :: b :: c :: d :: e :: f :: g :: h :: rest =>
      (scalar? [a, b, c, d, e, f, g, h]).map fun char => (char, rest)
  | 'b' :: rest => some (Char.ofNat 8, rest)
  | 't' :: rest => some ('\t', rest)
  | 'n' :: rest => some ('\n', rest)
  | 'f' :: rest => some (Char.ofNat 12, rest)
  | 'r' :: rest => some ('\r', rest)
  | '"' :: rest => some ('"', rest)
  | '\\' :: rest => some ('\\', rest)
  | _ => none

def basicBody : (fuel : Nat) → List Char → Option (List Char × List Char)
  | 0, _ => none
  | _ + 1, [] => none
  | _ + 1, '"' :: rest => some ([], rest)
  | fuel + 1, '\\' :: rest => do
      let (char, rest) ← escape? rest
      let (body, after) ← basicBody fuel rest
      some (char :: body, after)
  | fuel + 1, char :: rest =>
      if isPrintable char then
        (basicBody fuel rest).map fun (body, after) => (char :: body, after)
      else none

/-- The characters of a text without escapes on one line up to its closing quote. -/
def literalBody : List Char → Option (List Char × List Char)
  | [] => none
  | '\x27' :: rest => some ([], rest)
  | char :: rest =>
      if isPrintable char then
        (literalBody rest).map fun (body, after) => (char :: body, after)
      else none

/-- A run of quotes in a text of several lines: with three or more the text ends, and
up to two before the closing three belong to it. -/
def closing? (quotes : Nat) : Option Nat :=
  if quotes < 3 then none else some (min (quotes - 3) 2)

/-- What follows a line end and all blanks and line ends after it. -/
def skipLines : (fuel : Nat) → List Char → List Char
  | 0, input => input
  | fuel + 1, input =>
      match input with
      | ' ' :: rest => skipLines fuel rest
      | '\t' :: rest => skipLines fuel rest
      | '\n' :: rest => skipLines fuel rest
      | '\r' :: '\n' :: rest => skipLines fuel rest
      | _ => input

def longBody (quote : Char) (escapes : Bool) : (fuel : Nat) → List Char →
    Option (List Char × List Char)
  | 0, _ => none
  | _ + 1, [] => none
  | fuel + 1, char :: rest =>
      if char = quote then
        let quotes := 1 + (rest.takeWhile (· = quote)).length
        match closing? quotes with
        | some kept => some (List.replicate kept quote, rest.drop (kept + 2))
        | none =>
            (longBody quote escapes fuel (rest.drop (quotes - 1))).map fun (body, after) =>
              (List.replicate quotes quote ++ body, after)
      else if escapes && char = '\\' then
        match afterLineEnd? (skipSpace rest) with
        | some next => longBody quote escapes fuel (skipLines next.length next)
        | none => do
            let (char, rest) ← escape? rest
            let (body, after) ← longBody quote escapes fuel rest
            some (char :: body, after)
      else match afterLineEnd? (char :: rest) with
        | some next =>
            (longBody quote escapes fuel next).map fun (body, after) => ('\n' :: body, after)
        | none =>
            if isPrintable char then
              (longBody quote escapes fuel rest).map fun (body, after) => (char :: body, after)
            else none

/-- A text of several lines after its opening quotes; a line end right there is left
out. -/
def longText? (quote : Char) (escapes : Bool) (input : List Char) :
    Option (String × List Char) :=
  let start := (afterLineEnd? input).getD input
  (longBody quote escapes (start.length + 1) start).map fun (body, after) =>
    (String.ofList body, after)

def shortText? (quote : Char) (input : List Char) : Option (String × List Char) :=
  let body := if quote = '"' then basicBody (input.length + 1) input else literalBody input
  body.map fun (body, after) => (String.ofList body, after)

def quoted? : List Char → Option (String × List Char)
  | '"' :: '"' :: '"' :: rest => longText? '"' true rest
  | '\x27' :: '\x27' :: '\x27' :: rest => longText? '\x27' false rest
  | '"' :: rest => shortText? '"' rest
  | '\x27' :: rest => shortText? '\x27' rest
  | _ => none

/-! ## Keys -/

/-- A character of a key without quotes. -/
def isBare (char : Char) : Bool :=
  char.isAlphanum || char = '_' || char = '-'

def keyPart? : List Char → Option (String × List Char)
  | '"' :: rest => shortText? '"' rest
  | '\x27' :: rest => shortText? '\x27' rest
  | input =>
      let name := input.takeWhile isBare
      if name.isEmpty then none else some (String.ofList name, input.dropWhile isBare)

def keyParts : (fuel : Nat) → List Char → Option (List String × List Char)
  | 0, _ => none
  | fuel + 1, input => do
      let (part, after) ← keyPart? (skipSpace input)
      match skipSpace after with
      | '.' :: rest => do
          let (parts, after) ← keyParts fuel rest
          some (part :: parts, after)
      | rest => some ([part], rest)

/-- How many parts a key has at most, and how deep values may be nested. -/
def depthLimit : Nat := 79

/-- A key: the names on the way and the last one. -/
def key? (input : List Char) : Option ((List String × String) × List Char) := do
  let (parts, after) ← keyParts depthLimit input
  let last ← parts.getLast?
  some ((parts.dropLast, last), after)

end PromptClient.Toml
