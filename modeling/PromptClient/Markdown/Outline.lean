import PromptClient.Markdown.Definition
import PromptClient.Markdown.Frame
import PromptClient.Markdown.Table

/-! # The outline of a document

The lines of a document become blocks. A line first continues what is open, then may
open quotations and lists, and what is left of it starts a block that takes as many
of the following lines as belong to it.
-/

namespace PromptClient.Markdown

/-! ## Code -/

def codeLine (cursor : Cursor) (line : Line) : List Char :=
  cursor.remaining ++ line.plainEnding

/-- The code up to the closing fence, and the lines after it. -/
def fencedCode (frames : List Frame) (indent : Nat) (mark : Char) (count : Nat) :
    List Line → List Char × List Line
  | [] => ([], [])
  | line :: rest =>
      match inside? frames line with
      | none => ([], line :: rest)
      | some cursor =>
          let (_, start) := cursor.skip indent
          let (missing, close) := start.skip 4
          if missing ≠ 0 && closesFence mark count close.rest then ([], rest)
          else
            let (text, after) := fencedCode frames indent mark count rest
            (codeLine start line ++ text, after)

/-- The further lines of indented code, each with whether it is blank, and the lines
after them. -/
def indentedCode (frames : List Frame) : List Line → List (List Char × Bool) × List Line
  | [] => ([], [])
  | line :: rest =>
      match inside? frames line with
      | none => ([], line :: rest)
      | some cursor =>
          let (missing, start) := cursor.skip 4
          if missing ≠ 0 && !start.rest.isEmpty then ([], line :: rest)
          else
            let (texts, after) := indentedCode frames rest
            ((codeLine start line, start.isBlank) :: texts, after)

/-- The texts before the blank ones at the end. -/
def dropBlankEnd (texts : List (List Char × Bool)) : List (List Char × Bool) :=
  (texts.reverse.dropWhile fun text => text.2).reverse

/-! ## Raw markup -/

def occursIn (word text : List Char) : Bool :=
  (afterFirst? word text).isSome

/-- Markup up to the line with the text that ends it; `text` is the line before. -/
def markupUntil (frames : List Frame) (stop : List Char) (text : List Char) :
    List Line → List Char × List Line
  | [] => ([], [])
  | line :: rest =>
      if occursIn stop text then ([], line :: rest)
      else match inside? frames line with
        | none => ([], line :: rest)
        | some cursor =>
            let (more, after) := markupUntil frames stop cursor.rest rest
            (codeLine cursor line ++ more, after)

def markupToBlank (frames : List Frame) : List Line → List Char × List Line
  | [] => ([], [])
  | line :: rest =>
      match inside? frames line with
      | none => ([], line :: rest)
      | some cursor =>
          if cursor.rest.isEmpty then ([], line :: rest)
          else
            let (more, after) := markupToBlank frames rest
            (codeLine cursor line ++ more, after)

/-! ## Paragraphs -/

/-- A mark after which an item would be empty, with an empty line below. -/
def isEmptyItem (text : List Char) (next : List Line) : Bool :=
  isBlankText text && match next with
    | [] => true
    | line :: _ => isBlankText line.text

/-- An item that may end a paragraph. In the paragraph's own container it must not be
empty, and a number must be one. -/
def isItemBreak (free : Bool) (text : List Char) (next : List Line) : Bool :=
  match mark? text with
  | none => false
  | some (mark, number, width) =>
      let rest := text.drop width
      (match rest with
        | [] => true
        | char :: _ => char = ' ' || char = '\t') &&
        (free || ((isBullet mark || number = 1) && !isEmptyItem rest next))

/-- A line that ends the paragraph or the table before it. Items end it in any case if
`free`. -/
def isBreak (free : Bool) (text : List Char) (next : List Line) : Bool :=
  text.isEmpty || isRule text || (heading? text).isSome || (fence? text).isSome ||
    text.head? = some '>' || isItemBreak free text next ||
    match text with
    | '<' :: rest => (blockEnd? rest).isSome || startsStructure rest
    | _ => false

/-- The alignments in the line after the head of a table. -/
def tableColumns? (frames : List Frame) (head : List Char) (next : List Line) :
    Option (List Alignment) := do
  let count ← columnCount? head
  let line ← next.head?
  let cursor ← inside? frames line
  let (missing, start) := cursor.skip 4
  let columns ← if missing = 0 then none else alignments? start.rest
  if columns.length = count then some columns else none

/-- The rows of a table, and the lines after them. -/
def tableRows (frames : List Frame) (columns : Nat) :
    List Line → List (List Source) × List Line
  | [] => ([], [])
  | line :: rest =>
      match inside? frames line with
      | none => ([], line :: rest)
      | some cursor =>
          let text := cursor.rest.dropWhile fun char => char = ' ' || char = '\t'
          if isBreak true text rest then ([], line :: rest)
          else
            let (rows, after) := tableRows frames columns rest
            (rowOf columns text :: rows, after)

/-- How a paragraph goes on: its further text, the level of the heading that a line
below makes of it, and the lines after it. -/
structure Continuation where
  text : Source
  level : Option Nat
  rest : List Line

/-- The lines that continue a paragraph. `ending` ends the line before. -/
def continuation (frames : List Frame) (ending : List Char) : List Line → Continuation
  | [] => ⟨[], none, []⟩
  | line :: rest =>
      let (count, cursor) := passFrames frames (Cursor.ofLine line)
      let isInside := count = frames.length
      let (missing, start) := cursor.skip 4
      let stops : Bool :=
        if missing = 0 then
          (start.rest.dropWhile fun char => char = ' ' || char = '\t').isEmpty
        else
          isBreak (!isInside) start.rest rest ||
            (start.rest.head? = some '|' && (tableColumns? frames start.rest rest).isSome)
      match if missing ≠ 0 && isInside then underline? start.rest else none with
      | some level => ⟨[], some level, rest⟩
      | none =>
          if stops then ⟨[], none, line :: rest⟩
          else
            let more := continuation frames line.ending rest
            ⟨ending ++ cursor.rest ++ more.text, more.level, more.rest⟩

/-- The text in which a definition is looked for: lines up to one that ends a
paragraph. -/
def definitionText (frames : List Frame) (first : List Char) : List Line → List (List Char)
  | [] => [first]
  | line :: rest =>
      match inside? frames line with
      | none => [first]
      | some cursor =>
          let (missing, start) := cursor.skip 4
          if start.isBlank || (missing ≠ 0 && isBreak false start.rest rest) then [first]
          else first :: definitionText frames cursor.rest rest

/-! ## Blocks -/

def withBlock (block : Block Source) (rest : List Line) (outline : Outline) :
    Outline × List Line :=
  (outline.add block, rest)

/-- A backslash at the end that no other one takes its meaning from. -/
def endsEscaping (text : List Char) : Bool :=
  (text.reverse.takeWhile (· = '\\')).length % 2 = 1

/-- A paragraph, or what its first lines turn out to be. -/
def addParagraph (text : List Char) (line : Line) (rest : List Line) (outline : Outline) :
    Outline × List Line :=
  let frames := outline.path
  let outline' := { outline with task := none }
  match if endsEscaping text then none else tableColumns? frames text rest with
  | some columns =>
      let (rows, after) := tableRows frames columns.length rest.tail
      withBlock (.table columns (rowOf columns.length text) rows) after outline'
  | none =>
      let more := continuation frames line.ending rest
      let prose := ⟨outline.task, text ++ more.text⟩
      match more.level with
      | some level => withBlock (.heading level prose) more.rest outline'
      | none => withBlock (.paragraph prose) more.rest outline'

/-- A definition, or a paragraph if the text is none. -/
def addText (text : List Char) (line : Line) (rest : List Line) (outline : Outline) :
    Outline × List Line :=
  let lines := if text.head? = some '[' then definitionText outline.path text rest else []
  match definition? (List.intercalate ['\n'] lines) with
  | some (label, target, after) =>
      let left := if after.isEmpty then 0 else 1 + after.count '\n'
      ({ outline with definitions := define label target outline.definitions },
        rest.drop (lines.length - left - 1))
  | none => addParagraph text line rest outline

/-- The text after a fence. -/
def infoText (text : List Char) : List Char :=
  plainText ((text.dropWhile isSpace).reverse.dropWhile isSpaceOrEnd).reverse

/-- Markup that makes a block: whether it does, and up to where. -/
def markup? (text : List Char) : Option (Option (List Char)) :=
  match text with
  | '<' :: rest =>
      match blockEnd? rest with
      | some stop => some (some stop)
      | none => if startsStructure rest || isLoneTag rest then some none else none
  | _ => none

/-- The block that starts at the cursor, on a line that is not blank. -/
def addBlock (cursor : Cursor) (line : Line) (rest : List Line) (outline : Outline) :
    Outline × List Line :=
  let outline := outline.endList
  let frames := outline.path
  let (missing, start) := cursor.skip 4
  let text := start.rest
  if missing = 0 then
    let (more, after) := indentedCode frames rest
    let kept := dropBlankEnd more
    withBlock (.code none (codeLine start line ++ (kept.map fun text => text.1).flatten)) after
      { outline with lastBlank := kept.length < more.length }
  else match markup? text with
    | some stop =>
        let first := List.replicate (4 - missing) ' ' ++ text ++ line.plainEnding
        let (more, after) := match stop with
          | some stop => markupUntil frames stop text rest
          | none => markupToBlank frames rest
        withBlock (.html (first ++ more)) after outline
    | none =>
        if isRule text then withBlock .rule rest outline
        else match heading? text with
          | some (level, after) =>
              withBlock (.heading level ⟨none, headingText after⟩) rest outline
          | none => match fence? text with
            | some (mark, count, after) =>
                let (code, after') := fencedCode frames (4 - missing) mark count rest
                withBlock (.code (some (infoText after)) code) after' outline
            | none => addText text line rest outline

/-- Open the quotations and items that start at the cursor. Returns the cursor after
them, or nothing if the line is used up. -/
def openFrames (line : Line) : (fuel : Nat) → Cursor → Outline → Outline × Option Cursor
  | 0, cursor, outline => (outline, some cursor)
  | fuel + 1, cursor, outline =>
      let (missing, start) := cursor.skip 4
      if missing = 0 then (outline, some cursor)
      else match start.itemMark? (4 - missing) with
        | some (found, next) =>
            let outline := outline.startItem found
            if next.isBlank then ({ outline with itemBegun := true }, none)
            else match next.taskBox? (!line.ending.isEmpty) with
              | some (done, after) =>
                  if after.isBlank then
                    ({ outline.add (.task done) with itemBegun := true }, none)
                  else openFrames line fuel after { outline with task := some done }
              | none => openFrames line fuel next outline
        | none => match start.quoteMark? with
          | some next => openFrames line fuel next (outline.endList.push (.quote []))
          | none => (outline, some cursor)

def takeBlock (outline : Outline) (line : Line) (rest : List Line) : Outline × List Line :=
  let (count, cursor) := passFrames outline.path (Cursor.ofLine line)
  let outline := outline.popMany (outline.frames.length - count)
  match openFrames line (line.text.length + 1) cursor outline with
  | (outline, none) => (outline, rest)
  | (outline, some cursor) =>
      if cursor.isBlank then (outline.blankLine, rest)
      else addBlock cursor line rest outline

def takeBlocks : (fuel : Nat) → Outline → List Line → Outline
  | 0, outline, _ => outline
  | _ + 1, outline, [] => outline
  | fuel + 1, outline, line :: rest =>
      let (outline, rest) := takeBlock outline line rest
      takeBlocks fuel outline rest

def outlineOf (text : List Char) : List (Block Source) × Definitions :=
  let lines := linesOf text
  let outline := takeBlocks lines.length .empty lines
  let closed := outline.popMany outline.frames.length
  (closed.blocks.reverse, closed.definitions)

end PromptClient.Markdown
