import PromptClient.Markdown.Target

/-! # Definitions of links

A label and a colon, an address and perhaps a title. Each part may be on a line of its
own; what is on the last line must be all of it.
-/

namespace PromptClient.Markdown

/-- The nesting of parentheses in the address of a definition. -/
def definitionNesting : Nat := 1

/-- What follows a line that has nothing more to say. -/
def afterBlankLine? (input : List Char) : Option (List Char) :=
  let after := input.dropWhile isSpace
  if after.isEmpty then some []
  else if startsLineEnd after then some (afterLineEnd after)
  else none

def definitionTitle? (input : List Char) : Option (List Char × List Char) := do
  let (title, after) ← title? input
  let after ← afterBlankLine? after
  some (title, after)

/-- A definition at the front of a text: its label, its target, and the lines that
follow. -/
def definition? : List Char → Option (List Char × LinkTarget × List Char)
  | '[' :: rest => do
      let (label, after) ← label? rest
      match after with
      | ':' :: after => do
          let start := skipBlanks after
          let (written, after) ← address? definitionNesting start
          let address := plainText written
          let ended := afterBlankLine? after
          if after.length = start.length then none
          else match after with
            | [] => some (label, ⟨address, []⟩, [])
            | next :: _ =>
                if !isSpaceOrEnd next then none
                else match definitionTitle? (skipBlanks after) with
                  | some (title, rest) => some (label, ⟨address, title⟩, rest)
                  | none => ended.map fun rest => (label, ⟨address, []⟩, rest)
      | _ => none
  | _ => none

/-- Add a definition unless the label is taken. -/
def define (label : List Char) (target : LinkTarget) (known : Definitions) : Definitions :=
  match known.lookup label with
  | some _ => known
  | none => known ++ [(label, target)]

end PromptClient.Markdown
