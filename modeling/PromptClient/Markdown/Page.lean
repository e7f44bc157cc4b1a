import PromptClient.Markdown.Inline
import PromptClient.Markdown.Outline
import PromptClient.Text.Decimal

/-! # Markdown as HTML

Every block starts on a line of its own. Text is escaped where it stands, and what was
markup in the source is handed on.
-/

namespace PromptClient.Markdown

/-! ## Escaping -/

def escapeTextChar (char : Char) : List Char :=
  if char = '&' then "&amp;".toList
  else if char = '<' then "&lt;".toList
  else if char = '>' then "&gt;".toList
  else [char]

def escapeValueChar (char : Char) : List Char :=
  if char = '"' then "&quot;".toList
  else if char = '\x27' then "&#39;".toList
  else escapeTextChar char

def isAddressChar (char : Char) : Bool :=
  (char.toNat < 128 && char.isAlphanum) || "!#$%()*+,-./:;=?@_~".toList.contains char

def escapeAddressChar (char : Char) : List Char :=
  if isAddressChar char then [char]
  else if char = '&' then "&amp;".toList
  else if char = '\x27' then "&#x27;".toList
  else (Text.Utf8.encode char.toString).flatMap Text.Percent.triple

/-! ## Pages -/

/-- What has been written. -/
structure Page where
  text : String
  /-- The text is empty or ends with a line. -/
  atStart : Bool

namespace Page

def blank : Page := ⟨"", true⟩

def put (page : Page) (chars : List Char) : Page :=
  match chars.getLast? with
  | none => page
  | some last => ⟨page.text ++ String.ofList chars, last = '\n'⟩

def write (page : Page) (text : String) : Page := page.put text.toList

def freshLine (page : Page) : Page :=
  if page.atStart then page else page.write "\n"

end Page

/-! ## Inlines -/

mutual

/-- What is read out of an inline in place of an image: its text alone. -/
def altText : Inline → List Char
  | .text value => value.flatMap escapeValueChar
  | .code value => value.flatMap escapeValueChar
  | .html value => value.flatMap escapeValueChar
  | .softBreak => [' ']
  | .hardBreak => [' ']
  | .emphasis parts => altTexts parts
  | .strong parts => altTexts parts
  | .strikethrough parts => altTexts parts
  | .link _ _ parts => altTexts parts
  | .image _ _ parts => altTexts parts

/-- What is read out of inlines in place of an image. -/
def altTexts : List Inline → List Char
  | [] => []
  | part :: rest => altText part ++ altTexts rest

end

/-- The attribute of a title, if there is one. -/
def titleAttribute (title : List Char) : List Char :=
  if title.isEmpty then []
  else " title=\"".toList ++ title.flatMap escapeValueChar ++ ['"']

mutual

def writeInline (page : Page) : Inline → Page
  | .text value => page.put (value.flatMap escapeTextChar)
  | .code value =>
      ((page.write "<code>").put (value.flatMap escapeTextChar)).write "</code>"
  | .html value => page.put value
  | .softBreak => page.write "\n"
  | .hardBreak => page.write "<br />\n"
  | .emphasis parts => (writeInlines (page.write "<em>") parts).write "</em>"
  | .strong parts => (writeInlines (page.write "<strong>") parts).write "</strong>"
  | .strikethrough parts => (writeInlines (page.write "<del>") parts).write "</del>"
  | .link address title parts =>
      let opened := (((page.write "<a href=\"").put (address.flatMap escapeAddressChar)).put
        ('"' :: titleAttribute title)).write ">"
      (writeInlines opened parts).write "</a>"
  | .image address title parts =>
      ((((page.write "<img src=\"").put (address.flatMap escapeAddressChar)).write "\" alt=\"").put
        (altTexts parts ++ '"' :: titleAttribute title)).write " />"

def writeInlines (page : Page) : List Inline → Page
  | [] => page
  | part :: rest => writeInlines (writeInline page part) rest

end

/-! ## Blocks -/

def taskBox (done : Bool) : String :=
  if done then "<input disabled=\"\" type=\"checkbox\" checked=\"\"/>\n"
  else "<input disabled=\"\" type=\"checkbox\"/>\n"

def writeProse (page : Page) (prose : Prose (List Inline)) : Page :=
  let page := match prose.task with
    | some done => page.write (taskBox done)
    | none => page
  writeInlines page prose.content

def alignmentText : Alignment → String
  | .unset => ">"
  | .left => " style=\"text-align: left\">"
  | .center => " style=\"text-align: center\">"
  | .right => " style=\"text-align: right\">"

def writeCells (name : String) (page : Page) (columns : List Alignment)
    (cells : List (List Inline)) : Page :=
  match cells with
  | [] => page
  | parts :: rest =>
      let opened := (page.write ("<" ++ name)).write (alignmentText (columns.head?.getD .unset))
      writeCells name ((writeInlines opened parts).write ("</" ++ name ++ ">")) columns.tail rest

def writeRows (page : Page) (columns : List Alignment) :
    List (List (List Inline)) → Page
  | [] => page
  | cells :: rest =>
      writeRows ((writeCells "td" (page.write "<tr>") columns cells).write "</tr>\n") columns rest

/-- The tag that opens code; the first word after a fence names its language. -/
def codeTag (info : Option (List Char)) : List Char :=
  let language := (info.getD []).takeWhile (· ≠ ' ')
  if language.isEmpty then "<pre><code>".toList
  else "<pre><code class=\"language-".toList ++ language.flatMap escapeValueChar ++ ['"', '>']

def listTag : Option Nat → String
  | none => "<ul>\n"
  | some 1 => "<ol>\n"
  | some start => "<ol start=\"" ++ Text.Decimal.ofNat start ++ "\">\n"

mutual

def writeBlock (page : Page) : Block (List Inline) → Page
  | .paragraph prose => (writeProse (page.freshLine.write "<p>") prose).write "</p>\n"
  | .plain prose => writeProse page prose
  | .heading level prose =>
      let name := "h" ++ Text.Decimal.ofNat level ++ ">"
      (writeProse (page.freshLine.write ("<" ++ name)) prose).write ("</" ++ name ++ "\n")
  | .rule => page.freshLine.write "<hr />\n"
  | .code info text =>
      ((page.freshLine.put (codeTag info)).put (text.flatMap escapeTextChar)).write
        "</code></pre>\n"
  | .html text => page.put text
  | .quote blocks =>
      (writeBlocks (page.freshLine.write "<blockquote>\n") blocks).write "</blockquote>\n"
  | .list start items =>
      (writeItems (page.freshLine.write (listTag start)) items).write
        (if start.isNone then "</ul>\n" else "</ol>\n")
  | .task done => page.write (taskBox done)
  | .table columns head rows =>
      let headed := (writeCells "th" (page.write "<table><thead><tr>") columns head).write
        "</tr></thead><tbody>\n"
      (writeRows headed columns rows).write "</tbody></table>\n"

def writeBlocks (page : Page) : List (Block (List Inline)) → Page
  | [] => page
  | block :: rest => writeBlocks (writeBlock page block) rest

def writeItems (page : Page) : List (List (Block (List Inline))) → Page
  | [] => page
  | blocks :: rest =>
      writeItems ((writeBlocks (page.freshLine.write "<li>") blocks).write "</li>\n") rest

end

def toHtml (text : String) : String :=
  let (blocks, definitions) := outlineOf text.toList
  (writeBlocks .blank (mapBlocks (inlines definitions) blocks)).text

end PromptClient.Markdown
