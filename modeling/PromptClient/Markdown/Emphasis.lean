import PromptClient.Markdown.Basic

/-! # Emphasis

Runs of marks are paired from left to right, each closing run with the nearest opening
one that fits it. What is left of a run is text.
-/

namespace PromptClient.Markdown

inductive Piece where
  | inline (value : Inline)
  | run (mark : Char) (length : Nat) (opens closes : Bool)

/-- A run that may open an emphasis, and what follows it, in reverse. -/
structure Opener where
  mark : Char
  length : Nat
  /-- The marks that are not used yet. -/
  unused : Nat
  /-- The run might also have closed an emphasis. -/
  isBoth : Bool
  inside : List Inline

/-- The open runs, innermost first, and what is before them, in reverse. -/
structure Spread where
  openers : List Opener
  base : List Inline

namespace Spread

def empty : Spread := ⟨[], []⟩

def add (value : Inline) (spread : Spread) : Spread :=
  match spread.openers with
  | [] => { spread with base := value :: spread.base }
  | opener :: rest =>
      { spread with openers := { opener with inside := value :: opener.inside } :: rest }

end Spread

/-- Marks that mean nothing. -/
def bareMarks (mark : Char) (count : Nat) : Inline :=
  .text (List.replicate count mark)

/-- What an opener and all that follows it come to if it opens nothing, in reverse. -/
def Opener.flat (opener : Opener) (before : List Inline) : List Inline :=
  opener.inside ++ bareMarks opener.mark opener.unused :: before

/-- A closing run fits an opener: the same mark, and lengths that do not leave open
which of two pairings is meant. -/
def Opener.fits (opener : Opener) (mark : Char) (length : Nat) (isBoth : Bool) : Bool :=
  opener.mark = mark &&
    (mark ≠ '~' || length = opener.length) &&
    ((!isBoth && !opener.isBoth) || (length + opener.length) % 3 ≠ 0 || length % 3 = 0)

/-- Inlines between pairs of marks, two marks at a time from the inside. -/
def emphasize (mark : Char) : (count : Nat) → List Inline → Inline
  | 0, parts => .emphasis parts
  | 1, parts => if mark = '~' then .strikethrough parts else .emphasis parts
  | 2, parts => if mark = '~' then .strikethrough parts else .strong parts
  | count + 3, parts =>
      emphasize mark (count + 1)
        [if mark = '~' then .strikethrough parts else .strong parts]

/-- Pair marks of a closing run with openers. Returns how many are left. -/
def closeRun (mark : Char) (length : Nat) (isBoth : Bool) :
    (fuel : Nat) → (count : Nat) → Spread → Nat × Spread
  | 0, count, spread => (count, spread)
  | fuel + 1, count, spread =>
      let (above, others) := spread.openers.span fun opener => !opener.fits mark length isBoth
      match others with
      | [] => (count, spread)
      | opener :: below =>
          let used := min count opener.unused
          let inside := above.foldr Opener.flat opener.inside
          let whole := emphasize mark used inside.reverse
          let openers :=
            if used < opener.unused then
              { opener with unused := opener.unused - used, inside := [] } :: below
            else below
          let spread := Spread.add whole ⟨openers, spread.base⟩
          if used < count then closeRun mark length isBoth fuel (count - used) spread
          else (0, spread)

def takePiece (spread : Spread) : Piece → Spread
  | .inline value => spread.add value
  | .run mark length opens closes =>
      let (count, spread) :=
        if closes then closeRun mark length (opens && closes) length length spread
        else (length, spread)
      if count = 0 then spread
      else if opens then
        { spread with openers := ⟨mark, length, count, opens && closes, []⟩ :: spread.openers }
      else spread.add (bareMarks mark count)

def resolve (pieces : List Piece) : List Inline :=
  let spread := pieces.foldl takePiece .empty
  (spread.openers.foldr Opener.flat spread.base).reverse

example : resolve [.run '*' 3 true false, .inline (.text ['a']), .run '*' 3 false true] =
    [.emphasis [.strong [.text ['a']]]] := by rfl

end PromptClient.Markdown
