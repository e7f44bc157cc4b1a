import PromptClient.Markdown.Basic
import PromptClient.Markdown.Opening

/-! # Open blocks

The quotations, lists and items that a line may continue, innermost first, with the
blocks found in them so far.
-/

namespace PromptClient.Markdown

/-- A text whose inlines have not been read yet. -/
abbrev Source := List Char

/-- A block that holds others and has not ended. What it holds is in reverse. -/
inductive Frame where
  | quote (blocks : List (Block Source))
  /-- A list is loose once a blank line separates what is in it. -/
  | list (isLoose : Bool) (mark : Char) (number : Nat) (items : List (List (Block Source)))
  | item (indent : Nat) (blocks : List (Block Source))

namespace Frame

/-- A block with what it holds as a block of its own; `none` for an item. -/
def block? : Frame → Option (Block Source)
  | .quote blocks => some (.quote blocks.reverse)
  | .list isLoose mark number items =>
      let items := items.reverse
      let items := if isLoose then items else items.map fun blocks => blocks.map Block.tighten
      some (.list (if isCounter mark then some number else none) items)
  | .item _ _ => none

def add (block : Block Source) : Frame → Frame
  | .quote blocks => .quote (block :: blocks)
  | .item indent blocks => .item indent (block :: blocks)
  | frame => frame

def absorb (inner : Frame) (outer : Frame) : Frame :=
  match inner, outer with
  | .item _ blocks, .list isLoose mark number items =>
      .list isLoose mark number (blocks.reverse :: items)
  | _, _ => match inner.block? with
    | some block => outer.add block
    | none => outer

/-- Move over what a line must start with to continue a frame. A blank line continues
every item. -/
def pass? (cursor : Cursor) : Frame → Option Cursor
  | .quote _ => cursor.quoteMark?
  | .list _ _ _ _ => some cursor
  | .item indent _ =>
      let (missing, next) := cursor.skip indent
      if missing = 0 || next.rest.isEmpty then some next else none

end Frame

/-- Move over what continues the frames, outermost first. Also returns how many are
continued. -/
def passFrames : List Frame → Cursor → Nat × Cursor
  | [], cursor => (0, cursor)
  | frame :: rest, cursor =>
      match frame.pass? cursor with
      | some next =>
          let (count, last) := passFrames rest next
          (count + 1, last)
      | none => (0, cursor)

/-- The cursor of a line after the marks of all frames, if it continues them. -/
def inside? (frames : List Frame) (line : Line) : Option Cursor :=
  let (count, cursor) := passFrames frames (Cursor.ofLine line)
  if count = frames.length then some cursor else none

/-- What has been found in the lines so far. -/
structure Outline where
  /-- The open frames, innermost first. -/
  frames : List Frame
  /-- The finished blocks, last first. -/
  blocks : List (Block Source)
  definitions : Definitions
  /-- The line before was blank. -/
  lastBlank : Bool
  /-- An item started with a blank line, and nothing has followed yet. -/
  itemBegun : Bool
  /-- The box of a task that belongs to the next paragraph. -/
  task : Option Bool

namespace Outline

def empty : Outline := ⟨[], [], [], false, false, none⟩

/-- The open frames, outermost first. -/
def path (outline : Outline) : List Frame := outline.frames.reverse

def add (block : Block Source) (outline : Outline) : Outline :=
  match outline.frames with
  | [] => { outline with blocks := block :: outline.blocks }
  | frame :: rest => { outline with frames := frame.add block :: rest }

def push (frame : Frame) (outline : Outline) : Outline :=
  { outline with frames := frame :: outline.frames }

def pop (outline : Outline) : Outline :=
  match outline.frames with
  | [] => outline
  | frame :: rest =>
      let itemBegun := match frame with
        | .list false _ _ _ => false
        | _ => outline.itemBegun
      match rest with
      | [] =>
          { outline with
            frames := []
            blocks := match frame.block? with
              | some block => block :: outline.blocks
              | none => outline.blocks
            itemBegun }
      | outer :: others =>
          { outline with frames := frame.absorb outer :: others, itemBegun }

def popMany : (count : Nat) → Outline → Outline
  | 0, outline => outline
  | count + 1, outline => popMany count outline.pop

/-- End an item that has been followed by nothing but blank lines. -/
def endEmptyItem (outline : Outline) : Outline :=
  let outline :=
    if outline.itemBegun && outline.lastBlank then
      match outline.frames with
      | .item _ _ :: _ => outline.pop
      | _ => outline
    else outline
  { outline with itemBegun := false }

def loosen : Frame → Frame
  | .list _ mark number items => .list true mark number items
  | frame => frame

/-- End the list whose next item is missing. A blank line before this one makes the
list around the current item loose. -/
def endList (outline : Outline) : Outline :=
  let outline := outline.endEmptyItem
  let outline := match outline.frames with
    | .list _ _ _ _ :: _ => outline.pop
    | _ => outline
  if outline.lastBlank then
    let frames := match outline.frames with
      | frame :: outer :: rest => frame :: loosen outer :: rest
      | frames => frames
    { outline with frames, lastBlank := false }
  else outline

/-- Start an item: in the list that is open if it has the same mark, else in a new
one. -/
def startItem (found : ItemMark) (outline : Outline) : Outline :=
  let outline := outline.endEmptyItem
  let fresh := outline.endList.push (.list false found.mark found.number [])
  let outline := match outline.frames with
    | .list isLoose mark number items :: rest =>
        if mark = found.mark then
          { outline with
            frames := .list (isLoose || outline.lastBlank) mark number items :: rest
            lastBlank := false }
        else fresh
    | _ => fresh
  outline.push (.item found.indent [])

/-- A blank line. In an item that started with one, the next line must not be
indented to continue it. -/
def blankLine (outline : Outline) : Outline :=
  match outline.frames with
  | .quote _ :: _ => outline
  | .item _ blocks :: rest =>
      if outline.itemBegun then
        { outline with frames := .item 0 blocks :: rest, lastBlank := true }
      else { outline with lastBlank := true }
  | _ => { outline with lastBlank := true }

end Outline

end PromptClient.Markdown
