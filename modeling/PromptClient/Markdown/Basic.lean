/-! # Markdown documents

A document is a list of blocks, and what stands in a block is a list of inlines. The
blocks are found first: until their inlines are known they carry a piece of the
source instead.
-/

namespace PromptClient.Markdown

inductive Inline where
  | text (value : List Char)
  | code (value : List Char)
  /-- Markup that is handed on as it is. -/
  | html (value : List Char)
  | softBreak
  | hardBreak
  | emphasis (parts : List Inline)
  | strong (parts : List Inline)
  | strikethrough (parts : List Inline)
  | link (target title : List Char) (parts : List Inline)
  | image (source title : List Char) (parts : List Inline)
deriving Repr, Inhabited

inductive Alignment
  | unset
  | left
  | center
  | right
deriving DecidableEq, Repr

/-- Text that may start with the box of a task. -/
structure Prose (α : Type) where
  /-- Whether the task is done, if there is one. -/
  task : Option Bool
  content : α
deriving Repr

/-- A block whose texts are of type `α`. -/
inductive Block (α : Type) where
  | paragraph (prose : Prose α)
  /-- A paragraph in a list without blank lines. -/
  | plain (prose : Prose α)
  | heading (level : Nat) (prose : Prose α)
  | rule
  /-- Code, with the text after its fence if it has one. -/
  | code (info : Option (List Char)) (text : List Char)
  | html (text : List Char)
  | quote (blocks : List (Block α))
  /-- A list, with the number of its first item if it counts them. -/
  | list (start : Option Nat) (items : List (List (Block α)))
  /-- The box of a task without text. -/
  | task (done : Bool)
  | table (columns : List Alignment) (head : List α) (rows : List (List α))
deriving Repr, Inhabited

def Prose.map (change : α → β) (prose : Prose α) : Prose β :=
  ⟨prose.task, change prose.content⟩

mutual

def Block.map (change : α → β) : Block α → Block β
  | .paragraph prose => .paragraph (prose.map change)
  | .plain prose => .plain (prose.map change)
  | .heading level prose => .heading level (prose.map change)
  | .rule => .rule
  | .code info text => .code info text
  | .html text => .html text
  | .quote blocks => .quote (mapBlocks change blocks)
  | .list start items => .list start (mapItems change items)
  | .task done => .task done
  | .table columns head rows =>
      .table columns (head.map change) (rows.map fun cells => cells.map change)

def mapBlocks (change : α → β) : List (Block α) → List (Block β)
  | [] => []
  | block :: rest => block.map change :: mapBlocks change rest

def mapItems (change : α → β) : List (List (Block α)) → List (List (Block β))
  | [] => []
  | blocks :: rest => mapBlocks change blocks :: mapItems change rest

end

/-- A paragraph loses its distance from what is around it. -/
def Block.tighten : Block α → Block α
  | .paragraph prose => .plain prose
  | block => block

structure LinkTarget where
  address : List Char
  title : List Char
deriving DecidableEq, Repr

abbrev Definitions := List (List Char × LinkTarget)

end PromptClient.Markdown
