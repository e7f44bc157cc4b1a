import PromptClient.Html.Basic

/-! # Open elements

The elements that have been opened and not closed, innermost first. Whether a tag may
close one of them depends on which elements stand in between.
-/

namespace PromptClient.Html

structure Open where
  node : Nat
  vocabulary : Vocabulary
  tag : Tag
deriving Repr, Inhabited

def Open.isOne (names : List String) (element : Open) : Bool :=
  element.vocabulary = .html && names.contains element.tag.name

/-- An element of mathematics that holds text. -/
def Open.isMathText (element : Open) : Bool :=
  element.vocabulary = .math && ["mi", "mo", "mn", "ms", "mtext"].contains element.tag.name

/-- A note in mathematics. -/
def Open.isMathNote (element : Open) : Bool :=
  element.vocabulary = .math && element.tag.name = "annotation-xml"

/-- An element of vector graphics that holds HTML. -/
def Open.isDrawingText (element : Open) : Bool :=
  element.vocabulary = .svg && ["foreignobject", "desc", "title"].contains element.tag.name

/-- An element of another vocabulary that HTML may stand in. -/
def Open.isBoundary (element : Open) : Bool :=
  element.isMathText || element.isMathNote || element.isDrawingText

/-! ## Scopes -/

/-- No tag reaches an element beyond one of these. -/
def Open.endsScope (element : Open) : Bool :=
  element.isBoundary ||
    element.isOne ["applet", "caption", "html", "table", "td", "th", "marquee", "object",
      "template"]

/-- No tag of a list item reaches an element beyond one of these. -/
def Open.endsListScope (element : Open) : Bool :=
  element.endsScope || element.isOne ["ol", "ul"]

/-- No tag of a paragraph reaches an element beyond one of these. -/
def Open.endsButtonScope (element : Open) : Bool :=
  element.endsScope || element.isOne ["button"]

/-- No tag of a table reaches an element beyond one of these. -/
def Open.endsTableScope (element : Open) : Bool :=
  element.isOne ["html", "table", "template"]

/-- No tag of a choice reaches an element beyond one of these. -/
def Open.endsSelectScope (element : Open) : Bool :=
  !element.isOne ["optgroup", "option"]

/-- One of the wanted elements is reached before the scope ends. -/
def reaches (wanted ends : Open → Bool) : List Open → Bool
  | [] => false
  | element :: rest => wanted element || (!ends element && reaches wanted ends rest)

/-- What is left after closing the first of the wanted elements and all within it. -/
def closeThrough (wanted : Open → Bool) (stack : List Open) : List Open :=
  match stack.dropWhile fun element => !wanted element with
  | [] => stack
  | _ :: rest => rest

theorem length_closeThrough_le (wanted : Open → Bool) (stack : List Open) :
    (closeThrough wanted stack).length ≤ stack.length := by
  unfold closeThrough
  split
  · exact Nat.le_refl _
  · rename_i head rest found
    have shorter : (stack.dropWhile fun element => !wanted element).length ≤ stack.length :=
      (List.dropWhile_sublist _).length_le
    rw [found] at shorter
    exact Nat.le_of_succ_le shorter

/-! ## Kinds of elements -/

/-- The elements that a tag of emphasis does not reach across unchanged. -/
def specialNames : List String :=
  ["address", "applet", "area", "article", "aside", "base", "basefont", "bgsound",
    "blockquote", "body", "br", "button", "caption", "center", "col", "colgroup", "dd",
    "details", "dir", "div", "dl", "dt", "embed", "fieldset", "figcaption", "figure",
    "footer", "form", "frame", "frameset", "h1", "h2", "h3", "h4", "h5", "h6", "head",
    "header", "hgroup", "hr", "html", "iframe", "img", "input", "isindex", "li", "link",
    "listing", "main", "marquee", "menu", "meta", "nav", "noembed", "noframes", "noscript",
    "object", "ol", "p", "param", "plaintext", "pre", "script", "section", "select",
    "source", "style", "summary", "table", "tbody", "td", "template", "textarea", "tfoot",
    "th", "thead", "title", "tr", "track", "ul", "wbr", "xmp"]

/-- An element that structures a page. -/
def Open.isSpecial (element : Open) : Bool :=
  element.isBoundary || element.isOne specialNames

/-- The elements that end where something else must start. -/
def impliedNames : List String :=
  ["dd", "dt", "li", "option", "optgroup", "p", "rb", "rp", "rt", "rtc"]

/-- The elements that end where a template ends. -/
def templateImpliedNames : List String :=
  ["caption", "colgroup", "tbody", "td", "tfoot", "th", "thead", "tr"] ++ impliedNames

/-- What is left after the elements that may end here, one name excepted. -/
def endImplied (names : List String) (kept : String) (stack : List Open) : List Open :=
  stack.dropWhile fun element => element.isOne names && element.tag.name ≠ kept

def headingNames : List String := ["h1", "h2", "h3", "h4", "h5", "h6"]

/-- The parts of a table between which no text may stand. -/
def tablePartNames : List String := ["table", "tbody", "tfoot", "thead", "tr"]

end PromptClient.Html
