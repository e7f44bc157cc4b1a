import PromptClient.Markdown.Basic
import PromptClient.Markdown.Reference

/-! # Tables

A row of cells, a row of hyphens that aligns the columns, and further rows. A bar
after a backslash does not separate cells.
-/

namespace PromptClient.Markdown

/-- What the row of hyphens says so far about a column. -/
structure ColumnMark where
  alignment : Alignment
  /-- Something has been read in this column. -/
  isBegun : Bool
  hasHyphen : Bool

def ColumnMark.fresh : ColumnMark := ⟨.unset, false, false⟩

/-- A colon before the hyphens, or after them. -/
def ColumnMark.withColon (column : ColumnMark) : ColumnMark :=
  let alignment := match column.isBegun, column.alignment with
    | false, .unset => .left
    | true, .left => .center
    | true, .unset => .right
    | _, known => known
  ⟨alignment, true, column.hasHyphen⟩

/-- The columns of a row of hyphens, and whether it has a bar and a hyphen. -/
def readColumns (column : ColumnMark) : List Char → Option (List Alignment × Bool × Bool)
  | [] => some (if column.isBegun then [column.alignment] else [], false, false)
  | ' ' :: rest => readColumns column rest
  | ':' :: rest => readColumns column.withColon rest
  | '-' :: rest => (readColumns ⟨column.alignment, true, true⟩ rest).map
      fun (columns, bar, _) => (columns, bar, true)
  | '|' :: rest =>
      if column.hasHyphen then
        (readColumns .fresh rest).map fun (columns, _, hyphen) =>
          (column.alignment :: columns, true, hyphen)
      else none
  | _ => none

def alignments? (text : List Char) : Option (List Alignment) := do
  let (columns, bar, hyphen) ← match text with
    | [] => none
    | '|' :: rest => (readColumns .fresh rest).map fun (columns, _, hyphen) =>
        (columns, true, hyphen)
    | _ => readColumns .fresh text
  if bar && hyphen then some columns else none

/-- The bars that separate cells, each with whether only blanks follow it. -/
def bars : List Char → List Bool
  | [] => []
  | '\\' :: next :: rest => if Text.isAsciiPunctuation next then bars rest else bars (next :: rest)
  | '|' :: rest => isBlankText rest :: bars rest
  | _ :: rest => bars rest

/-- How many cells a row separates, if it has a bar. -/
def columnCount? (text : List Char) : Option Nat :=
  let found := bars text
  match found.getLast? with
  | none => none
  | some closed =>
      let opened := (text.dropWhile isSpace).head? = some '|'
      some (found.length + 1 - (if opened then 1 else 0) - (if closed then 1 else 0))

/-- A cell and what follows it, from the next bar. A bar after a backslash is part of
the cell, and the backslash is not. -/
def cell : List Char → List Char × List Char
  | [] => ([], [])
  | '\\' :: '|' :: rest => let (body, after) := cell rest; ('|' :: body, after)
  | '|' :: rest => ([], '|' :: rest)
  | char :: rest => let (body, after) := cell rest; (char :: body, after)

/-- The cells of a row; a bar in front of the first may be left out. -/
def cells : (fuel : Nat) → List Char → List (List Char)
  | 0, _ => []
  | fuel + 1, input =>
      let start := match input with
        | '|' :: rest => rest.dropWhile isSpace
        | _ => input.dropWhile isSpace
      if start.isEmpty then []
      else
        let (body, after) := cell start
        (body.reverse.dropWhile isSpace).reverse :: cells fuel after

def rowOf (columns : Nat) (text : List Char) : List (List Char) :=
  let found := cells (text.length + 1) text
  found.take columns ++ List.replicate (columns - found.length) []

end PromptClient.Markdown
