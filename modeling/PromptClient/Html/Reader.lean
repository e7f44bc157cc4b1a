import PromptClient.Html.Basic
import PromptClient.Html.NamedChars

/-! # Reading HTML

The source is cut into tags and the text between them. Nothing is an error: what is
not a tag or a reference is text. Readers return what they read with the characters
that follow.
-/

namespace PromptClient.Html

/-- Line ends as line feeds; a byte order mark at the front is left out. -/
def normalizeSource (source : List Char) : List Char :=
  match source with
  | '\uFEFF' :: rest => unify rest
  | _ => unify source
where
  unify (source : List Char) : List Char :=
    source.foldr (fun char rest =>
      if char = '\r' then if rest.head? = some '\n' then rest else '\n' :: rest
      else char :: rest) []

def isSpace (char : Char) : Bool :=
  char = ' ' || char = '\t' || char = '\n' || char = '\x0c'

/-- A character that may not stand in a source, replaced. -/
def withoutNul (char : Char) : Char :=
  if char = '\x00' then '\uFFFD' else char

def nameChar (char : Char) : Char :=
  withoutNul char.toLower

/-! ## Character references -/

/-- The characters that the numbers from 128 to 159 stand for. -/
def upperControls : List Nat :=
  [0x20AC, 0x81, 0x201A, 0x192, 0x201E, 0x2026, 0x2020, 0x2021, 0x2C6, 0x2030, 0x160, 0x2039,
    0x152, 0x8D, 0x17D, 0x8F, 0x90, 0x2018, 0x2019, 0x201C, 0x201D, 0x2022, 0x2013, 0x2014,
    0x2DC, 0x2122, 0x161, 0x203A, 0x153, 0x9D, 0x17E, 0x178]

def numberedChar (code : Nat) : Char :=
  if code = 0 || 0x10FFFF < code || (0xD800 ≤ code && code ≤ 0xDFFF) then '\uFFFD'
  else if 128 ≤ code && code ≤ 159 then Char.ofNat (upperControls.getD (code - 128) 0xFFFD)
  else Char.ofNat code

def numeral (base : Nat) (start : Nat) : List Char → Nat × List Char
  | [] => (start, [])
  | char :: rest =>
      match Text.Percent.hexValue? char with
      | some value =>
          if value < base then numeral base (min (start * base + value) 0x110000) rest
          else (start, char :: rest)
      | none => (start, char :: rest)

/-- A numbered reference after the number sign; the semicolon may be missing. -/
def numberedReference? (base : Nat) (input : List Char) : Option (List Char × List Char) :=
  let (code, after) := numeral base 0 input
  if after.length = input.length then none
  else some ([numberedChar code], match after with
    | ';' :: rest => rest
    | _ => after)

/-- The longest name that counts without a semicolon, of at most `length` characters. -/
def looseReference? (input : List Char) : (length : Nat) → Option (List Char × List Char)
  | 0 => none
  | length + 1 =>
      let name := input.take (length + 1)
      if name.length = length + 1 && isLooseName name then
        (namedChar? name).map fun chars => (chars, input.drop (length + 1))
      else looseReference? input length

/-- The longest name of a character. -/
def nameLimit : Nat := 32

/-- A named reference. Within the value of an attribute, a name without a semicolon does
not count before a letter, a digit or an equals sign. -/
def namedReference? (inValue : Bool) (input : List Char) : Option (List Char × List Char) :=
  let name := (input.take nameLimit).takeWhile Char.isAlphanum
  let whole := match input.drop name.length with
    | ';' :: rest => (namedChar? name).map fun chars => (chars, rest)
    | _ => none
  match whole with
  | some found => some found
  | none =>
      match looseReference? name name.length with
      | none => none
      | some (chars, left) =>
          let after := input.drop (name.length - left.length)
          match after.head? with
          | some next =>
              if inValue && (next = '=' || next.isAlphanum) then none else some (chars, after)
          | none => some (chars, after)

/-- What follows an ampersand: the characters that the reference stands for. -/
def reference? (inValue : Bool) : List Char → Option (List Char × List Char)
  | '#' :: 'x' :: rest => numberedReference? 16 rest
  | '#' :: 'X' :: rest => numberedReference? 16 rest
  | '#' :: rest => numberedReference? 10 rest
  | input => namedReference? inValue input

def resolveText (inValue : Bool) : (fuel : Nat) → List Char → List Char
  | 0, input => input
  | _ + 1, [] => []
  | fuel + 1, '&' :: rest =>
      match reference? inValue rest with
      | some (chars, after) => chars ++ resolveText inValue fuel after
      | none => '&' :: resolveText inValue fuel rest
  | fuel + 1, char :: rest => char :: resolveText inValue fuel rest

/-! ## Tags -/

/-- The value of an attribute after the equals sign. -/
def attributeValue? (input : List Char) : Option (List Char × List Char) :=
  match input.dropWhile isSpace with
  | [] => none
  | first :: rest =>
      if first = '"' || first = '\x27' then
        match rest.dropWhile (· ≠ first) with
        | [] => none
        | _ :: after => some (rest.takeWhile (· ≠ first), after)
      else if first = '>' then some ([], first :: rest)
      else
        let (value, after) := (first :: rest).span fun char => !isSpace char && char ≠ '>'
        if after.isEmpty then none else some (value, after)

def plainValue (written : List Char) : List Char :=
  (resolveText true (written.length + 1) written).map withoutNul

/-- Add an attribute unless the tag has one of that name. -/
def addAttribute (name : List Char) (value : List Char) (known : List Attribute) :
    List Attribute :=
  let name := String.ofList name
  if known.any fun other => other.name = name then known
  else known ++ [⟨name, value⟩]

/-- The attributes of a tag up to its end, and whether it ends with a slash. `none` if
the source ends first. -/
def attributes? : (fuel : Nat) → (known : List Attribute) → List Char →
    Option (List Attribute × Bool × List Char)
  | 0, _, _ => none
  | fuel + 1, known, input =>
      match input.dropWhile isSpace with
      | [] => none
      | '>' :: rest => some (known, false, rest)
      | '/' :: '>' :: rest => some (known, true, rest)
      | '/' :: rest => attributes? fuel known rest
      | first :: rest =>
          let (more, after) := rest.span fun char =>
            !isSpace char && char ≠ '/' && char ≠ '>' && char ≠ '='
          let name := (first :: more).map nameChar
          match after.dropWhile isSpace with
          | '=' :: value =>
              match attributeValue? value with
              | none => none
              | some (written, after) =>
                  attributes? fuel (addAttribute name (plainValue written) known) after
          | next => attributes? fuel (addAttribute name [] known) next

/-- A tag after its opening sign and slash, from the first letter of its name. -/
def tag? (input : List Char) : Option (Tag × List Char) :=
  let (name, after) := input.span fun char => !isSpace char && char ≠ '/' && char ≠ '>'
  (attributes? (after.length + 1) [] after).map fun (attributes, isClosed, rest) =>
    (⟨String.ofList (name.map nameChar), attributes, isClosed⟩, rest)

/-! ## Comments and declarations -/

def afterComment : List Char → List Char
  | [] => []
  | '-' :: '-' :: '>' :: rest => rest
  | '-' :: '-' :: '!' :: '>' :: rest => rest
  | _ :: rest => afterComment rest

def afterSign (input : List Char) : List Char :=
  (input.dropWhile (· ≠ '>')).drop 1

def characterSection : List Char → List Char × List Char
  | [] => ([], [])
  | ']' :: ']' :: '>' :: rest => ([], rest)
  | char :: rest => let (body, after) := characterSection rest; (char :: body, after)

def afterName? : (word : List Char) → List Char → Option (List Char)
  | [], input => some input
  | char :: word, first :: rest =>
      if first.toLower = char then afterName? word rest else none
  | _ :: _, [] => none

/-- What a markup declaration after its opening sign and exclamation mark comes to: the
text of a section of plain characters, if such may stand here. -/
def declaration (allowsSections : Bool) (input : List Char) : List Char × List Char :=
  match input with
  | '-' :: '-' :: '>' :: rest => ([], rest)
  | '-' :: '-' :: '-' :: '>' :: rest => ([], rest)
  | '-' :: '-' :: rest => ([], afterComment rest)
  | '[' :: 'C' :: 'D' :: 'A' :: 'T' :: 'A' :: '[' :: rest =>
      if allowsSections then characterSection rest else ([], afterSign input)
  | _ => ([], afterSign input)

/-! ## Tokens -/

def startsWithLetter : List Char → Bool
  | char :: _ => char.isAlpha
  | [] => false

/-- The first character of a piece of markup and not of text. -/
def startsMarkup (rest : List Char) : Bool :=
  match rest with
  | '/' :: _ :: _ => true
  | '!' :: _ => true
  | '?' :: _ => true
  | _ => startsWithLetter rest

def textBefore : List Char → List Char × List Char
  | [] => ([], [])
  | '<' :: rest =>
      if startsMarkup rest then ([], '<' :: rest)
      else let (body, after) := textBefore rest; ('<' :: body, after)
  | char :: rest => let (body, after) := textBefore rest; (char :: body, after)

/-- The next token, if the source has one, and what follows it. Markup that means
nothing is an empty text. -/
def token (allowsSections : Bool) (input : List Char) : Token × List Char :=
  match input with
  | '<' :: '!' :: rest =>
      let (body, after) := declaration allowsSections rest
      (.text body, after)
  | '<' :: '?' :: rest => (.text [], afterSign rest)
  | '<' :: '/' :: rest =>
      if startsWithLetter rest then
        match tag? rest with
        | some (tag, after) => (.closing tag.name, after)
        | none => (.text [], [])
      else if rest.isEmpty then (.text ['<', '/'], [])
      else (.text [], afterSign rest)
  | '<' :: rest =>
      if startsWithLetter rest then
        match tag? rest with
        | some (tag, after) => (.opening tag, after)
        | none => (.text [], [])
      else
        let (body, after) := textBefore rest
        (.text (resolveText false (body.length + 2) ('<' :: body)), after)
  | _ =>
      let (body, after) := textBefore input
      (.text (resolveText false (body.length + 1) body), after)

/-! ## Text without markup -/

def isTagOf (name : List Char) (input : List Char) : Bool :=
  match afterName? name input with
  | some (next :: _) => isSpace next || next = '/' || next = '>'
  | _ => false

def afterClosing? (name : List Char) (input : List Char) : Option (List Char) :=
  match input with
  | '/' :: rest =>
      if isTagOf name rest then some ((tag? rest).elim [] fun found => found.2) else none
  | _ => none

def verbatim (name : List Char) : List Char → List Char × List Char
  | [] => ([], [])
  | '<' :: rest =>
      match afterClosing? name rest with
      | some after => ([], after)
      | none => let (body, after) := verbatim name rest; ('<' :: body, after)
  | char :: rest => let (body, after) := verbatim name rest; (withoutNul char :: body, after)

/-- How far a script has hidden its text from the tag that closes it. -/
inductive ScriptHiding
  | bare
  | comment
  /-- In a script within a comment: the next closing tag closes that one. -/
  | inner
deriving DecidableEq

def scriptName : List Char := ['s', 'c', 'r', 'i', 'p', 't']

def ScriptHiding.atSign (place : ScriptHiding) (rest : List Char) : ScriptHiding :=
  match place with
  | .bare => if rest.take 3 = ['!', '-', '-'] then .comment else .bare
  | .comment => if isTagOf scriptName rest then .inner else .comment
  | .inner =>
      if rest.head? = some '/' && isTagOf scriptName (rest.drop 1) then .comment else .inner

/-- What follows the tag that closes a script. `hyphens` counts those just before. -/
def afterScript (place : ScriptHiding) (hyphens : Nat) : List Char → List Char
  | [] => []
  | char :: rest =>
      if char = '<' then
        match if place = .inner then none else afterClosing? scriptName rest with
        | some after => after
        | none => afterScript (place.atSign rest) 0 rest
      else if char = '-' then afterScript place (hyphens + 1) rest
      else if char = '>' && 2 ≤ hyphens then afterScript .bare 0 rest
      else afterScript place 0 rest

end PromptClient.Html
