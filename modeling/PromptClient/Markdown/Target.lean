import PromptClient.Markdown.Basic
import PromptClient.Markdown.Reference
import PromptClient.Text.CaseFold

/-! # Parts of links

The label, the address and the title of a link as they are written. Readers return
what they read with the characters that follow.
-/

namespace PromptClient.Markdown

/-! ## Labels -/

/-- The longest label, in characters. -/
def labelLimit : Nat := 999

/-- The characters of a label up to its closing bracket, runs of blanks as one space. A
bracket must stand after a backslash. -/
def labelBody? : (fuel : Nat) → (afterBlank : Bool) → List Char →
    Option (List Char × List Char)
  | 0, _, _ => none
  | _ + 1, _, [] => none
  | _ + 1, _, ']' :: rest => some ([], rest)
  | _ + 1, _, '[' :: _ => none
  | fuel + 1, _, '\\' :: next :: rest =>
      (labelBody? fuel false rest).map fun (body, after) => ('\\' :: next :: body, after)
  | fuel + 1, afterBlank, char :: rest =>
      if isSpaceOrEnd char then
        (labelBody? fuel true rest).map fun (body, after) =>
          (if afterBlank then body else ' ' :: body, after)
      else (labelBody? fuel false rest).map fun (body, after) => (char :: body, after)

/-- A label after its opening bracket, in the form in which labels are compared: without
blanks around it and without differences of case. It may not be blank. -/
def label? (input : List Char) : Option (List Char × List Char) := do
  let (body, after) ← labelBody? (labelLimit + 1) true input
  let trimmed := if body.getLast? = some ' ' then body.dropLast else body
  if trimmed.isEmpty then none else some (Text.foldCase trimmed, after)

/-! ## Addresses -/

/-- An address in angle brackets, after the first. -/
def pointedAddress? : List Char → Option (List Char × List Char)
  | [] => none
  | '>' :: rest => some ([], rest)
  | '\\' :: next :: rest =>
      if Text.isAsciiPunctuation next then
        (pointedAddress? rest).map fun (body, after) => ('\\' :: next :: body, after)
      else if next = '\n' || next = '\r' || next = '<' then none
      else (pointedAddress? (next :: rest)).map fun (body, after) => ('\\' :: body, after)
  | char :: rest =>
      if char = '\n' || char = '\r' || char = '<' then none
      else (pointedAddress? rest).map fun (body, after) => (char :: body, after)

/-- An address without brackets: up to a blank, a control character or a closing
parenthesis that it did not open. `open` counts the parentheses that are open. -/
def bareAddress? (nesting : Nat) : (fuel : Nat) → (depth : Nat) → List Char →
    Option (List Char × List Char)
  | 0, _, _ => none
  | _ + 1, depth, [] => if depth = 0 then some ([], []) else none
  | fuel + 1, depth, '\\' :: next :: rest =>
      if Text.isAsciiPunctuation next then
        (bareAddress? nesting fuel depth rest).map fun (body, after) =>
          ('\\' :: next :: body, after)
      else (bareAddress? nesting fuel depth (next :: rest)).map fun (body, after) =>
        ('\\' :: body, after)
  | fuel + 1, depth, char :: rest =>
      if char.toNat ≤ 32 then if depth = 0 then some ([], char :: rest) else none
      else if char = '(' then
        if depth > nesting then none
        else (bareAddress? nesting fuel (depth + 1) rest).map fun (body, after) =>
          (char :: body, after)
      else if char = ')' then
        if depth = 0 then some ([], char :: rest)
        else (bareAddress? nesting fuel (depth - 1) rest).map fun (body, after) =>
          (char :: body, after)
      else (bareAddress? nesting fuel depth rest).map fun (body, after) => (char :: body, after)

/-- An address in either form, as it is written. Parentheses in a bare one may be
nested up to a limit. -/
def address? (nesting : Nat) (input : List Char) : Option (List Char × List Char) :=
  match input with
  | '<' :: rest => pointedAddress? rest
  | _ => bareAddress? nesting (input.length + 1) 0 input

/-! ## Titles -/

def closingMark? (opening : Char) : Option Char :=
  if opening = '"' || opening = '\x27' then some opening
  else if opening = '(' then some ')'
  else none

/-- The characters of a title up to its closing mark, as they are written. A title in
parentheses may hold no further ones. The blanks that start a line are left out. -/
def titleBody? (opening closing : Char) : (fuel : Nat) → List Char →
    Option (List Char × List Char)
  | 0, _ => none
  | _ + 1, [] => none
  | fuel + 1, char :: rest =>
      if char = closing then some ([], rest)
      else if char = opening then none
      else match char, rest with
        | '\\', next :: after =>
            (titleBody? opening closing fuel after).map fun (body, after) =>
              ('\\' :: next :: body, after)
        | _, _ =>
            if char = '\n' then
              (titleBody? opening closing fuel (rest.dropWhile fun next =>
                next = ' ' || next = '\t')).map fun (body, after) => ('\n' :: body, after)
            else (titleBody? opening closing fuel rest).map fun (body, after) =>
              (char :: body, after)

def title? (input : List Char) : Option (List Char × List Char) :=
  match input with
  | [] => none
  | opening :: rest => do
      let closing ← closingMark? opening
      let (body, after) ← titleBody? opening closing (rest.length + 1) rest
      some (plainText body, after)

/-! ## Blanks between the parts -/

/-- What follows blanks with at most one line end among them. -/
def skipBlanks (input : List Char) : List Char :=
  let after := input.dropWhile isSpace
  if startsLineEnd after then (afterLineEnd after).dropWhile isSpace else after

/-- The nesting of parentheses in the address of a link. -/
def linkNesting : Nat := 5

def inlineTarget? : List Char → Option (LinkTarget × List Char)
  | '(' :: rest => do
      let (address, after) ← address? linkNesting (skipBlanks rest)
      let after := skipBlanks after
      let (title, after) := match title? after with
        | some (title, next) => (title, skipBlanks next)
        | none => ([], after)
      match after with
      | ')' :: next => some (⟨plainText address, title⟩, next)
      | _ => none
  | _ => none

end PromptClient.Markdown
