import PromptClient.Html.Draft
import PromptClient.Html.Stack

/-! # Building a fragment

A builder takes tags and text and keeps the tree proper: it knows the open elements and
the emphasis that is still in force, and it moves what may not stand in a table out of
it.
-/

namespace PromptClient.Html

/-- What the next token is taken as a part of. -/
inductive Mode
  | body
  | verbatim
  | table
  | caption
  | columnGroup
  | tableBody
  | row
  | cell
  | select
  | selectInTable
  | template
deriving DecidableEq, Repr

structure Builder where
  draft : Draft
  /-- The open elements, innermost first. -/
  stack : List Open
  /-- The emphasis in force, last first. Nothing marks where a part begins that none
  reaches into. -/
  formatting : List (Option Open)
  mode : Mode
  nextMode : Mode
  /-- The modes of the open templates, innermost first. -/
  templateModes : List Mode
  form : Option Nat
  /-- What may not stand in a table is put before it. -/
  isFostering : Bool
  skipsLineFeed : Bool
deriving Repr

namespace Builder

def root : Open := ⟨0, .html, ⟨"html", [], false⟩⟩

def start : Builder :=
  ⟨.start, [root], [], .body, .body, [], none, false, false⟩

def current (builder : Builder) : Open := builder.stack.headD root

def isAt (builder : Builder) (names : List String) : Bool := builder.current.isOne names

/-- An element of these names is open, at any depth. -/
def hasOpen (builder : Builder) (names : List String) : Bool :=
  builder.stack.any (Open.isOne names)

/-! ## Inserting -/

/-- Put a node where something that may not stand in a table belongs: before the table,
or into what is around it. -/
def foster (draft : Draft) (node : Nat) : List Open → Draft
  | [] => draft.append 0 node
  | element :: rest =>
      if element.isOne ["template"] then draft.append element.node node
      else if element.isOne ["table"] then
        if (draft.parent? element.node).isSome then draft.insertBefore element.node node
        else draft.append (rest.headD root).node node
      else foster draft node rest

/-- Put a node into an open element, or where it belongs instead. -/
def place (builder : Builder) (target : Open) (node : Nat) : Builder :=
  if builder.isFostering && target.isOne tablePartNames then
    { builder with draft := foster builder.draft node builder.stack }
  else { builder with draft := builder.draft.append target.node node }

def insertText (builder : Builder) (value : List Char) : Builder :=
  if value.isEmpty then builder
  else
    let (draft, node) := builder.draft.create (.text value)
    { builder with draft }.place builder.current node

def insertLeaf (builder : Builder) (vocabulary : Vocabulary) (tag : Tag) : Builder × Open :=
  let (draft, node) := builder.draft.create (.element vocabulary tag)
  ({ builder with draft }.place builder.current node, ⟨node, vocabulary, tag⟩)

def insertOf (builder : Builder) (vocabulary : Vocabulary) (tag : Tag) : Builder :=
  let (builder, element) := builder.insertLeaf vocabulary tag
  { builder with stack := element :: builder.stack }

def insert (builder : Builder) (tag : Tag) : Builder :=
  builder.insertOf .html tag

/-- Insert an element of HTML that holds nothing. -/
def insertEmpty (builder : Builder) (tag : Tag) : Builder :=
  (builder.insertLeaf .html tag).1

/-- Insert an element that no tag of the source opens. -/
def insertImplied (builder : Builder) (name : String) : Builder :=
  builder.insert ⟨name, [], false⟩

/-- Insert an element whose content is not markup. -/
def insertVerbatim (builder : Builder) (tag : Tag) : Builder :=
  { builder.insert tag with mode := .verbatim, nextMode := builder.mode }

/-! ## Closing -/

def pop (builder : Builder) : Builder :=
  { builder with stack := builder.stack.drop 1 }

def close (builder : Builder) (names : List String) : Builder :=
  { builder with stack := closeThrough (Open.isOne names) builder.stack }

def closeImplied (builder : Builder) (kept : String) : Builder :=
  { builder with stack := endImplied impliedNames kept builder.stack }

def closeTo (builder : Builder) (names : List String) : Builder :=
  { builder with stack := builder.stack.dropWhile fun element => !element.isOne names }

def inScope (builder : Builder) (names : List String) : Bool :=
  reaches (Open.isOne names) Open.endsScope builder.stack

def inTableScope (builder : Builder) (names : List String) : Bool :=
  reaches (Open.isOne names) Open.endsTableScope builder.stack

def closeParagraph (builder : Builder) : Builder :=
  if reaches (Open.isOne ["p"]) Open.endsButtonScope builder.stack then
    (builder.closeImplied "p").close ["p"]
  else builder

/-! ## Emphasis -/

/-- The emphasis since the last mark, last first. -/
def recentFormatting (builder : Builder) : List Open :=
  (builder.formatting.takeWhile Option.isSome).filterMap id

def isEntry (node : Nat) (entry : Option Open) : Bool :=
  match entry with
  | some element => element.node = node
  | none => false

def isFormatting (builder : Builder) (node : Nat) : Bool :=
  builder.formatting.any (isEntry node)

def dropFormatting (builder : Builder) (node : Nat) : Builder :=
  { builder with formatting := builder.formatting.filter fun entry => !isEntry node entry }

/-- Mark the start of a part that no emphasis reaches into. -/
def mark (builder : Builder) : Builder :=
  { builder with formatting := none :: builder.formatting }

/-- Forget the emphasis since the last mark, and the mark. -/
def unmark (builder : Builder) : Builder :=
  { builder with formatting := (builder.formatting.dropWhile Option.isSome).drop 1 }

/-- Open the emphasis that is in force and not open. -/
def reconstruct (builder : Builder) : Builder :=
  let (missing, known) := builder.formatting.span fun entry =>
    match entry with
    | some element => !builder.stack.any fun other => other.node = element.node
    | none => false
  missing.reverse.foldl
    (fun builder entry =>
      match entry with
      | none => builder
      | some element =>
          let builder := builder.insert element.tag
          { builder with formatting := some builder.current :: builder.formatting })
    { builder with formatting := known }

def isSameEmphasis (first second : Tag) : Bool :=
  first.name = second.name && first.attributes.length = second.attributes.length &&
    first.attributes.all fun given => second.attributes.contains given

/-- Open an emphasis. Of the same one, at most three stay in force. -/
def insertFormatting (builder : Builder) (tag : Tag) : Builder :=
  let same := builder.recentFormatting.filter fun element => isSameEmphasis element.tag tag
  let builder := match same.getLast? with
    | some oldest => if 3 ≤ same.length then builder.dropFormatting oldest.node else builder
    | none => builder
  let builder := builder.insert tag
  { builder with formatting := some builder.current :: builder.formatting }

/-- Close the innermost element of a name unless one that structures the page is in
between. -/
def closeOrdinary (builder : Builder) (name : String) : Builder :=
  let isNamed (element : Open) : Bool := element.isOne [name]
  match builder.stack.find? fun element => isNamed element || element.isSpecial with
  | some element =>
      if isNamed element then
        let builder := builder.closeImplied name
        { builder with stack := closeThrough (fun other => other.node = element.node) builder.stack }
      else builder
  | none => builder

/-- Where a copy of an emphasis belongs in the list of emphasis. -/
inductive Bookmark
  /-- In the place of the one that it is a copy of. -/
  | same
  /-- After another. -/
  | after (node : Nat)

/-- The state of copying the emphasis within a block that is misplaced. -/
structure Copying where
  builder : Builder
  /-- The elements that stay open, innermost first. -/
  kept : List Open
  last : Nat
  bookmark : Bookmark
  count : Nat

/-- Copy the next element out of a misplaced emphasis around `block`. -/
def copyNext (block : Nat) (copying : Copying) (element : Open) : Copying :=
  let count := copying.count + 1
  let builder := copying.builder
  if 3 < count || !builder.isFormatting element.node then
    { copying with builder := builder.dropFormatting element.node, count }
  else
    let (draft, node) := builder.draft.create (.element .html element.tag)
    let copy : Open := ⟨node, .html, element.tag⟩
    let formatting := builder.formatting.map fun entry =>
      if isEntry element.node entry then some copy else entry
    { builder := { builder with draft := draft.append node copying.last, formatting }
      kept := copying.kept ++ [copy]
      last := node
      bookmark := if copying.last = block then .after node else copying.bookmark
      count }

/-- Put the copy of an emphasis into the list of emphasis. -/
def putFormatting (formatting : List (Option Open)) (old : Nat) (copy : Open) :
    Bookmark → List (Option Open)
  | .same => formatting.map fun entry => if isEntry old entry then some copy else entry
  | .after node =>
      (formatting.flatMap fun entry =>
        if isEntry node entry then [some copy, entry] else [entry]).filter fun entry =>
          !isEntry old entry

/-- Close an emphasis around a block that started within it: the block moves out, and
what it holds gets a copy of the emphasis. -/
def moveOut (builder : Builder) (element block : Open) : Builder :=
  let (inner, rest) := builder.stack.span fun other => other.node ≠ element.node
  let below := rest.drop 1
  let (within, around) := inner.span fun other => other.node ≠ block.node
  let copied := (around.drop 1).foldl (copyNext block.node)
    ⟨builder, [], block.node, .same, 0⟩
  let builder := copied.builder
  let builder := { builder with draft := builder.draft.detach copied.last }
  let builder := builder.place (below.headD root) copied.last
  let (draft, node) := builder.draft.create (.element .html element.tag)
  let copy : Open := ⟨node, .html, element.tag⟩
  let draft := (draft.moveChildren block.node node).append block.node node
  { builder with
    draft
    formatting := putFormatting builder.formatting element.node copy copied.bookmark
    stack := within ++ copy :: block :: copied.kept ++ below }

/-- Close the last emphasis of a name, at most `rounds` times while blocks within it
have to move out. -/
def closeFormatting (name : String) : (rounds : Nat) → Builder → Builder
  | 0, builder => builder
  | rounds + 1, builder =>
      match builder.recentFormatting.find? fun element => element.tag.name = name with
      | none => builder.closeOrdinary name
      | some element =>
          let isIt (other : Open) : Bool := other.node = element.node
          if !builder.stack.any isIt then builder.dropFormatting element.node
          else if !reaches isIt Open.endsScope builder.stack then builder
          else
            let inner := builder.stack.takeWhile fun other => !isIt other
            match inner.reverse.find? Open.isSpecial with
            | none =>
                { builder with stack := closeThrough isIt builder.stack }.dropFormatting
                  element.node
            | some block => closeFormatting name rounds (builder.moveOut element block)

def endFormatting (builder : Builder) (name : String) : Builder :=
  if builder.isAt [name] && !builder.isFormatting builder.current.node then builder.pop
  else closeFormatting name 8 builder

/-! ## Modes -/

def modeFor (templateModes : List Mode) : List Open → Mode
  | [] => .body
  | [_] => .body
  | element :: rest =>
      if element.vocabulary ≠ .html then modeFor templateModes rest
      else match element.tag.name with
        | "select" =>
            if reaches (Open.isOne ["table"]) (Open.isOne ["template"]) rest then .selectInTable
            else .select
        | "td" => .cell
        | "th" => .cell
        | "tr" => .row
        | "tbody" => .tableBody
        | "thead" => .tableBody
        | "tfoot" => .tableBody
        | "caption" => .caption
        | "colgroup" => .columnGroup
        | "table" => .table
        | "template" => templateModes.headD .template
        | "body" => .body
        | _ => modeFor templateModes rest

def resetMode (builder : Builder) : Builder :=
  { builder with mode := modeFor builder.templateModes builder.stack }

end Builder

end PromptClient.Html
