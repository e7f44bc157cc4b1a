import PromptClient.Markdown.Line
import PromptClient.Markdown.Tag

/-! # Openings of blocks

What the first characters of a line, its indentation apart, say about the block that
starts there.
-/

namespace PromptClient.Markdown

/-- A rule: three or more of one mark, with blanks anywhere. -/
def isRule (text : List Char) : Bool :=
  match text with
  | [] => false
  | mark :: _ =>
      (mark = '*' || mark = '-' || mark = '_') &&
        text.all (fun char => char = mark || char = ' ' || char = '\t') &&
        3 ≤ text.countP (· = mark)

/-- The level of a heading, and the text after its signs. -/
def heading? (text : List Char) : Option (Nat × List Char) :=
  let (signs, after) := text.span (· = '#')
  if signs.isEmpty || 6 < signs.length then none
  else match after with
    | [] => some (signs.length, [])
    | next :: _ => if isSpaceOrEnd next then some (signs.length, after) else none

/-- The text of a heading without the signs that close it. Those must stand after a
space, unless there is nothing else. -/
def headingText (text : List Char) : List Char :=
  let shown := (text.dropWhile isSpace).reverse.dropWhile (· = ' ')
  let bare := shown.dropWhile (· = '#')
  match bare with
  | [] => []
  | ' ' :: rest => (rest.dropWhile (· = ' ')).reverse
  | _ => shown.reverse

def underline? (text : List Char) : Option Nat :=
  match text with
  | [] => none
  | mark :: rest =>
      if mark = '=' && isBlankText (rest.dropWhile (· = mark)) then some 1
      else if mark = '-' && isBlankText (rest.dropWhile (· = mark)) then some 2
      else none

/-- A fence: its mark, how often it stands there, and what follows. A mark of the
same kind may not follow backticks. -/
def fence? (text : List Char) : Option (Char × Nat × List Char) :=
  match text with
  | [] => none
  | mark :: _ =>
      if mark = '\x60' || mark = '~' then
        let (marks, after) := text.span (· = mark)
        if marks.length < 3 || (mark = '\x60' && after.contains mark) then none
        else some (mark, marks.length, after)
      else none

/-- The text closes a fence: as many marks, and nothing but spaces after them. -/
def closesFence (mark : Char) (count : Nat) (text : List Char) : Bool :=
  let (marks, after) := text.span (· = mark)
  count ≤ marks.length && after.all (· = ' ')

/-! ## Items of lists -/

/-- The mark of an item. -/
structure ItemMark where
  mark : Char
  /-- The number before the mark, or zero. -/
  number : Nat
  /-- The columns that the item's further lines are indented by. -/
  indent : Nat
deriving Repr

def isBullet (char : Char) : Bool :=
  char = '-' || char = '+' || char = '*'

def isCounter (char : Char) : Bool :=
  char = '.' || char = ')'

def numberOf (digits : List Char) : Nat :=
  digits.foldl (fun value digit => value * 10 + (digit.toNat - 48)) 0

def mark? (text : List Char) : Option (Char × Nat × Nat) :=
  match text with
  | [] => none
  | first :: _ =>
      if isBullet first then some (first, 0, 1)
      else
        let (digits, after) := text.span Char.isDigit
        match after with
        | mark :: _ =>
            if digits.isEmpty || 9 < digits.length || !isCounter mark then none
            else some (mark, numberOf digits, digits.length + 1)
        | [] => none

/-- The mark of an item at the cursor, after `indent` columns, and where its text
starts. -/
def Cursor.itemMark? (cursor : Cursor) (indent : Nat) : Option (ItemMark × Cursor) :=
  match mark? cursor.rest with
  | none => none
  | some (mark, number, width) =>
      if isBullet mark && isRule cursor.rest then none
      else
        let marked := cursor.advance width
        let (missing, next) := marked.skip 1
        if missing ≠ 0 && !marked.rest.isEmpty then none
        else
          let indent := indent + width + 1
          if next.isBlank then some (⟨mark, number, indent⟩, next)
          else
            let (missing, text) := next.skip 4
            if missing = 0 then some (⟨mark, number, indent⟩, next)
            else some (⟨mark, number, indent + (4 - missing)⟩, text)

/-- The box of a task at the cursor, and what follows. A blank must come next, or the
end of a line that is not the last one. -/
def Cursor.taskBox? (cursor : Cursor) (ends : Bool) : Option (Bool × Cursor) :=
  let (_, next) := cursor.skip 3
  match next.rest with
  | '[' :: sign :: ']' :: after =>
      let done? :=
        if isSpace sign then some false
        else if sign = 'x' || sign = 'X' then some true
        else none
      let closes := match after with
        | [] => ends
        | char :: _ => isSpace char
      if closes then done?.map fun done => (done, next.advance 3) else none
  | _ => none

end PromptClient.Markdown
