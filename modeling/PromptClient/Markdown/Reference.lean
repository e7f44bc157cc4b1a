import PromptClient.Html.NamedChars
import PromptClient.Text.Punctuation

/-! # Character references

A name or a number between an ampersand and a semicolon stands for characters, and a
backslash makes the punctuation character after it an ordinary one.
-/

namespace PromptClient.Markdown

def isSpace (char : Char) : Bool :=
  char = ' ' || char = '\t' || char = '\x0b' || char = '\x0c'

def isSpaceOrEnd (char : Char) : Bool :=
  isSpace char || char = '\n' || char = '\r'

def startsLineEnd : List Char → Bool
  | '\n' :: _ => true
  | '\r' :: _ => true
  | _ => false

def afterLineEnd : List Char → List Char
  | '\r' :: '\n' :: rest => rest
  | _ :: rest => rest
  | [] => []

def isBlankText (text : List Char) : Bool :=
  text.all isSpace

/-- The character with a code point; zero is not a character that may be named. -/
def charOfCode? (code : Nat) : Option Char :=
  if code = 0 then some '\uFFFD'
  else if code < 0xD800 || (0xDFFF < code && code < 0x110000) then some (Char.ofNat code)
  else none

/-- The value of at most `limit` digits to a base, and what follows them. -/
def numeral (base : Nat) : (limit : Nat) → (start : Nat) → List Char → Nat × List Char
  | 0, start, input => (start, input)
  | _ + 1, start, [] => (start, [])
  | limit + 1, start, char :: rest =>
      match Text.Percent.hexValue? char with
      | some value =>
          if value < base then numeral base limit (start * base + value) rest
          else (start, char :: rest)
      | none => (start, char :: rest)

/-- A numbered reference after the number sign: the character and what follows. -/
def numberedChar? (base limit : Nat) (input : List Char) : Option (Char × List Char) :=
  match numeral base limit 0 input with
  | (code, ';' :: rest) =>
      if rest.length + 1 = input.length then none
      else (charOfCode? code).map fun char => (char, rest)
  | _ => none

def isAsciiAlphanum (char : Char) : Bool := char.isAlphanum

/-- What follows an ampersand: the characters that the reference stands for, and what
comes after its semicolon. -/
def reference? : List Char → Option (List Char × List Char)
  | '#' :: 'x' :: rest => (numberedChar? 16 6 rest).map fun (char, after) => ([char], after)
  | '#' :: 'X' :: rest => (numberedChar? 16 6 rest).map fun (char, after) => ([char], after)
  | '#' :: rest => (numberedChar? 10 7 rest).map fun (char, after) => ([char], after)
  | input =>
      let (name, after) := input.span isAsciiAlphanum
      match after with
      | ';' :: rest => (Html.namedChar? name).map fun chars => (chars, rest)
      | _ => none

/-- A text with its references and backslashes resolved; carriage returns vanish. -/
def unescape : (fuel : Nat) → List Char → List Char
  | 0, input => input
  | _ + 1, [] => []
  | fuel + 1, '\\' :: next :: rest =>
      if Text.isAsciiPunctuation next then next :: unescape fuel rest
      else '\\' :: unescape fuel (next :: rest)
  | fuel + 1, '&' :: rest =>
      match reference? rest with
      | some (chars, after) => chars ++ unescape fuel after
      | none => '&' :: unescape fuel rest
  | fuel + 1, '\r' :: rest => unescape fuel rest
  | fuel + 1, char :: rest => char :: unescape fuel rest

def plainText (text : List Char) : List Char :=
  unescape text.length text

end PromptClient.Markdown
