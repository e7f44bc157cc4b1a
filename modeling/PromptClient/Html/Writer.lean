import PromptClient.Html.Parse
import PromptClient.Html.Policy

/-! # Writing a fragment

Text is escaped, and an element that holds nothing has no closing tag.
-/

namespace PromptClient.Html

def escapeTextChar (char : Char) : List Char :=
  if char = '&' then "&amp;".toList
  else if char = '\u00a0' then "&nbsp;".toList
  else if char = '<' then "&lt;".toList
  else if char = '>' then "&gt;".toList
  else [char]

def escapeValueChar (char : Char) : List Char :=
  if char = '&' then "&amp;".toList
  else if char = '\u00a0' then "&nbsp;".toList
  else if char = '"' then "&quot;".toList
  else [char]

def emptyNames : List String :=
  ["area", "base", "basefont", "bgsound", "br", "col", "embed", "frame", "hr", "img", "input",
    "keygen", "link", "meta", "param", "source", "track", "wbr"]

def writeAttribute (given : Attribute) : List Char :=
  ' ' :: given.name.toList ++ '=' :: '"' :: given.value.flatMap escapeValueChar ++ ['"']

def openingTag (name : String) (attributes : List Attribute) : List Char :=
  '<' :: name.toList ++ attributes.flatMap writeAttribute ++ ['>']

def closingTag (name : String) : List Char :=
  '<' :: '/' :: name.toList ++ ['>']

mutual

def write (before : String) : Node → String
  | .text value => before ++ String.ofList (value.flatMap escapeTextChar)
  | .element _ name attributes children =>
      let opened := before ++ String.ofList (openingTag name attributes)
      if emptyNames.contains name then opened
      else writeAll opened children ++ String.ofList (closingTag name)

def writeAll (before : String) : List Node → String
  | [] => before
  | node :: rest => writeAll (write before node) rest

end

/-- A source with only what may stay in it. -/
def sanitize (text : String) : String :=
  writeAll "" (cleanAll (parse text))

end PromptClient.Html
