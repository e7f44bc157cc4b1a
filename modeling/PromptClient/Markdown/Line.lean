import PromptClient.Markdown.Reference

/-! # Lines

The lines of a document, and a cursor that moves along the start of one. Indentation
is counted in columns: a tab reaches to the next multiple of four, and a cursor may
stop within it.
-/

namespace PromptClient.Markdown

structure Line where
  text : List Char
  ending : List Char
deriving DecidableEq, Repr, Inhabited

/-- Lines with a character put in front of the first. -/
def putChar (char : Char) (lines : List Line) : List Line :=
  match lines with
  | [] =>
      if char = '\n' || char = '\r' then [⟨[], [char]⟩] else [⟨[char], []⟩]
  | line :: rest =>
      if char = '\n' then ⟨[], ['\n']⟩ :: line :: rest
      else if char = '\r' then
        if line = ⟨[], ['\n']⟩ then ⟨[], ['\r', '\n']⟩ :: rest
        else ⟨[], ['\r']⟩ :: line :: rest
      else ⟨char :: line.text, line.ending⟩ :: rest

def linesOf (text : List Char) : List Line :=
  text.foldr putChar []

def Line.whole (line : Line) : List Char :=
  line.text ++ line.ending

theorem putChar_whole (char : Char) (lines : List Line) :
    (putChar char lines).flatMap Line.whole = char :: lines.flatMap Line.whole := by
  unfold putChar
  split
  · split <;> simp [Line.whole]
  · rename_i line rest
    split
    · simp_all [Line.whole]
    · split
      · split <;> simp_all [Line.whole]
      · simp [Line.whole]

theorem linesOf_whole (text : List Char) : (linesOf text).flatMap Line.whole = text := by
  induction text with
  | nil => rfl
  | cons char rest induction =>
      change (putChar char (linesOf rest)).flatMap Line.whole = char :: rest
      rw [putChar_whole, induction]

/-- The end of a line as it is written in code: a pair of end characters counts as
one. -/
def Line.plainEnding (line : Line) : List Char :=
  if line.ending = ['\r', '\n'] then ['\n'] else line.ending

/-- A place near the start of a line. -/
structure Cursor where
  rest : List Char
  /-- Columns since the last tab. -/
  column : Nat
  /-- Columns of the last tab that are still to come. -/
  spare : Nat
deriving Repr

namespace Cursor

def ofLine (line : Line) : Cursor :=
  ⟨line.text, 0, 0⟩

/-- Move over blanks by at most `count` columns. Also returns how many columns were
missing. -/
def skip (cursor : Cursor) (count : Nat) : Nat × Cursor :=
  let ready := min cursor.spare count
  go cursor.rest cursor.column (cursor.spare - ready) (count - ready)
where
  go : List Char → (column spare count : Nat) → Nat × Cursor
    | [], column, spare, count => (count, ⟨[], column, spare⟩)
    | char :: rest, column, spare, count =>
        if count = 0 then (0, ⟨char :: rest, column, spare⟩)
        else if char = ' ' then go rest (column + 1) 0 (count - 1)
        else if char = '\t' then
          let width := 4 - column % 4
          if width ≤ count then go rest 0 0 (count - width)
          else (0, ⟨rest, 0, width - count⟩)
        else (count, ⟨char :: rest, column, spare⟩)

/-- Move over characters other than blanks. -/
def advance (cursor : Cursor) (count : Nat) : Cursor :=
  ⟨cursor.rest.drop count, cursor.column + count, 0⟩

def isBlank (cursor : Cursor) : Bool :=
  isBlankText cursor.rest

def remaining (cursor : Cursor) : List Char :=
  List.replicate cursor.spare ' ' ++ cursor.rest

/-- After the mark of a quotation: at most three columns, a sign and one more column
if it is blank. -/
def quoteMark? (cursor : Cursor) : Option Cursor :=
  let (_, next) := cursor.skip 3
  match next.rest with
  | '>' :: _ => if next.spare = 0 then some ((next.advance 1).skip 1).2 else none
  | _ => none

end Cursor

end PromptClient.Markdown
