import PromptClient.Markdown.Reference

/-! # Raw markup

Tags, comments and the other forms of HTML that may stand in a document as they are.
Readers return what follows.
-/

namespace PromptClient.Markdown

def isAsciiLetter (char : Char) : Bool := char.isAlpha

def afterWord? : (word : List Char) → List Char → Option (List Char)
  | [], input => some input
  | char :: word, first :: rest => if first = char then afterWord? word rest else none
  | _ :: _, [] => none

/-- What follows the first occurrence of `word`. -/
def afterFirst? (word : List Char) : List Char → Option (List Char)
  | [] => if word.isEmpty then some [] else none
  | char :: rest =>
      match afterWord? word (char :: rest) with
      | some after => some after
      | none => afterFirst? word rest

/-! ## Tags -/

/-- A character of an attribute's name after the first. -/
def isAttributeChar (char : Char) : Bool :=
  char.isAlphanum || char = '_' || char = '.' || char = ':' || char = '-'

/-- A character of a value without quotes. -/
def isBareValueChar (char : Char) : Bool :=
  !(char = '\x27' || char = '"' || char = ' ' || char = '=' || char = '>' || char = '<' ||
    char = '\x60' || char = '\n' || char = '\r')

def afterValue? : List Char → Option (List Char)
  | [] => none
  | first :: rest =>
      if first = '"' || first = '\x27' then afterFirst? [first] rest
      else if isBareValueChar first then some (rest.dropWhile isBareValueChar)
      else none

def afterAttribute? : List Char → Option (List Char)
  | [] => none
  | first :: rest =>
      if isAsciiLetter first || first = '_' || first = ':' then
        let after := rest.dropWhile isAttributeChar
        match after.dropWhile isSpaceOrEnd with
        | '=' :: value => afterValue? (value.dropWhile isSpaceOrEnd)
        | _ => some after
      else none

/-- What follows the attributes of a tag: a slash or the closing sign. A blank must
stand before each attribute. -/
def afterAttributes? : (fuel : Nat) → List Char → Option (List Char)
  | 0, _ => none
  | _ + 1, [] => none
  | fuel + 1, char :: rest =>
      match (char :: rest).dropWhile isSpaceOrEnd with
      | [] => none
      | next :: after =>
          if next = '/' || next = '>' then some (next :: after)
          else if isSpaceOrEnd char then do
            let after ← afterAttribute? (next :: after)
            afterAttributes? fuel after
          else none

def afterTagName? : List Char → Option (List Char)
  | [] => none
  | first :: rest =>
      if isAsciiLetter first then
        some (rest.dropWhile fun char => char.isAlphanum || char = '-')
      else none

def afterTag? (input : List Char) : Option (List Char) :=
  match input with
  | '/' :: rest => do
      let after ← afterTagName? rest
      afterWord? ['>'] (after.dropWhile isSpace)
  | _ => do
      let after ← afterTagName? input
      let after ← afterAttributes? (after.length + 1) after
      match after.dropWhile isSpace with
      | '/' :: rest => afterWord? ['>'] rest
      | rest => afterWord? ['>'] rest

/-- What follows markup of any kind, whose opening sign has been read. -/
def afterMarkup? : List Char → Option (List Char)
  | '!' :: '-' :: '-' :: rest =>
      match rest with
      | '>' :: after => some after
      | '-' :: '>' :: after => some after
      | _ => afterFirst? ['-', '-', '>'] rest
  | '!' :: '[' :: rest => do
      let content ← afterWord? ['C', 'D', 'A', 'T', 'A', '['] rest
      afterFirst? [']', ']', '>'] content
  | '!' :: first :: rest => if isAsciiLetter first then afterFirst? ['>'] rest else none
  | '?' :: rest => afterFirst? ['?', '>'] rest
  | input => afterTag? input

/-! ## Markup that makes a block -/

/-- The first word is `word`, in either case, and ends there. -/
def startsWithName (word : List Char) (input : List Char) : Bool :=
  (input.take word.length).map Char.toLower = word &&
    match input.drop word.length with
    | [] => true
    | next :: _ => isSpaceOrEnd next || next = '>'

/-- The names of elements whose content is not markup. -/
def verbatimNames : List String := ["pre", "style", "script", "textarea"]

/-- What ends a block of markup that starts after the sign here and reaches up to a
fixed text. -/
def blockEnd? (input : List Char) : Option (List Char) :=
  match verbatimNames.find? fun name => startsWithName name.toList input with
  | some name => some ("</".toList ++ name.toList ++ ['>'])
  | none =>
      match input with
      | '!' :: '-' :: '-' :: _ => some ['-', '-', '>']
      | '?' :: _ => some ['?', '>']
      | '!' :: next :: rest =>
          if (afterWord? ['[', 'C', 'D', 'A', 'T', 'A', '['] (next :: rest)).isSome then
            some [']', ']', '>']
          else if isAsciiLetter next then some ['>']
          else none
      | _ => none

def structureNames : List String :=
  ["address", "article", "aside", "base", "basefont", "blockquote", "body", "caption",
    "center", "col", "colgroup", "dd", "details", "dialog", "dir", "div", "dl", "dt",
    "fieldset", "figcaption", "figure", "footer", "form", "frame", "frameset", "h1", "h2",
    "h3", "h4", "h5", "h6", "head", "header", "hr", "html", "iframe", "legend", "li", "link",
    "main", "menu", "menuitem", "nav", "noframes", "ol", "optgroup", "option", "p", "param",
    "search", "section", "summary", "table", "tbody", "td", "tfoot", "th", "thead", "title",
    "tr", "track", "ul"]

/-- A tag that structures a page starts after the sign here. -/
def startsStructure (input : List Char) : Bool :=
  let named := match input with
    | '/' :: rest => rest
    | _ => input
  let (name, after) := named.span Char.isAlphanum
  structureNames.contains (String.ofList (name.map Char.toLower)) &&
    match after with
    | [] => true
    | '/' :: '>' :: _ => true
    | next :: _ => next = ' ' || next = '\t' || next = '>'

/-- A line after its opening sign is a whole tag and nothing else. -/
def isLoneTag (line : List Char) : Bool :=
  match afterTag? line with
  | some after => isBlankText after
  | none => false

end PromptClient.Markdown
