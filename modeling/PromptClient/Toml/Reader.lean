import PromptClient.Toml.Moment
import PromptClient.Toml.Number

/-! # Reading TOML

A document is a sequence of lines: a value for a key, or the heading of a table.
Readers return what they read with the characters that follow.
-/

namespace PromptClient.Toml

/-- What follows a comment at the front, if there is one. -/
def skipComment : List Char → List Char
  | '#' :: rest => rest.dropWhile isPrintable
  | input => input

/-- The characters after blanks, line ends and comments. -/
def skipBlanks : (fuel : Nat) → List Char → List Char
  | 0, input => input
  | fuel + 1, input =>
      match input with
      | '#' :: rest => skipBlanks fuel (rest.dropWhile isPrintable)
      | char :: rest =>
          if isSpace char then skipBlanks fuel rest
          else match afterLineEnd? input with
            | some next => skipBlanks fuel next
            | none => input
      | [] => []

def afterWord? : (word : List Char) → List Char → Option (List Char)
  | [], input => some input
  | char :: word, first :: rest => if first = char then afterWord? word rest else none
  | _ :: _, [] => none

mutual

/-- A value. `fuel` bounds the number of readings, `depth` the containers that may
still be opened. -/
def readValue : (fuel depth : Nat) → List Char → Option (Toml × List Char)
  | 0, _, _ => none
  | fuel + 1, depth, input =>
      match input with
      | '[' :: rest =>
          match depth with
          | 0 => none
          | depth + 1 => (readItems fuel depth rest).map fun (items, after) =>
              (.array items, after)
      | '\x7b' :: rest =>
          match depth with
          | 0 => none
          | depth + 1 =>
              match skipSpace rest with
              | '\x7d' :: after => some (.table .sealed [], after)
              | other => readMembers fuel depth [] other
      | 't' :: rest => (afterWord? ['r', 'u', 'e'] rest).map fun after => (.boolean true, after)
      | 'f' :: rest =>
          (afterWord? ['a', 'l', 's', 'e'] rest).map fun after => (.boolean false, after)
      | other =>
          match quoted? other with
          | some (value, after) => some (.text value, after)
          | none => match afterMoment? other with
            | some after => some (.moment, after)
            | none => number? other

/-- Items of an array up to its closing bracket; a comma may follow the last. -/
def readItems : (fuel depth : Nat) → List Char → Option (List Toml × List Char)
  | 0, _, _ => none
  | fuel + 1, depth, input =>
      match skipBlanks (input.length + 1) input with
      | ']' :: rest => some ([], rest)
      | start => do
          let (item, after) ← readValue fuel depth start
          match skipBlanks (after.length + 1) after with
          | ']' :: rest => some ([item], rest)
          | ',' :: rest => do
              let (items, rest) ← readItems fuel depth rest
              some (item :: items, rest)
          | _ => none

/-- One or more members of a table written in one piece, added to those `before`,
up to the closing brace. -/
def readMembers : (fuel depth : Nat) → (before : Members) → List Char →
    Option (Toml × List Char)
  | 0, _, _, _ => none
  | fuel + 1, depth, before, input => do
      let ((names, name), rest) ← key? input
      match rest with
      | '=' :: rest => do
          let (value, after) ← readValue fuel depth (skipSpace rest)
          let members ← assign names name value before
          match skipSpace after with
          | '\x7d' :: rest => some (.table .sealed members, rest)
          | ',' :: rest => readMembers fuel depth members rest
          | _ => none
      | _ => none

end

/-! ## Lines -/

inductive Line
  | assignment (names : List String) (name : String) (value : Toml)
  | heading (names : List String) (name : String)
  | element (names : List String) (name : String)

/-- What follows the end of a line, before which a comment may stand. -/
def afterLine? (input : List Char) : Option (List Char) :=
  match skipComment (skipSpace input) with
  | [] => some []
  | other => afterLineEnd? other

/-- One line that is not empty. -/
def readLine : List Char → Option (Line × List Char)
  | '[' :: '[' :: rest => do
      let ((names, name), after) ← key? rest
      let after ← afterWord? [']', ']'] after
      let after ← afterLine? after
      some (.element names name, after)
  | '[' :: rest => do
      let ((names, name), after) ← key? rest
      let after ← afterWord? [']'] after
      let after ← afterLine? after
      some (.heading names name, after)
  | input => do
      let ((names, name), after) ← key? input
      let after ← afterWord? ['='] after
      let start := skipSpace after
      let (value, after) ← readValue (start.length + 1) depthLimit start
      let after ← afterLine? after
      some (.assignment names name value, after)

def readLines : (fuel : Nat) → List Char → Option (List Line)
  | 0, _ => none
  | fuel + 1, input =>
      match skipBlanks (input.length + 1) input with
      | [] => some []
      | start => do
          let (line, after) ← readLine start
          let lines ← readLines fuel after
          some (line :: lines)

end PromptClient.Toml
