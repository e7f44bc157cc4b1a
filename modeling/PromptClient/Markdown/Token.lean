import PromptClient.Markdown.Reference
import PromptClient.Text.Blank

/-! # Tokens of a text

The source of a text is cut into marks that may mean something, the ends of its lines
and the plain text between them. Each token knows what follows it, so that a link or a
tag can be read from there.
-/

namespace PromptClient.Markdown

/-- What a token is. -/
inductive TokenKind
  | text (value : List Char)
  /-- A run of one mark of emphasis, with whether it may open and close one. -/
  | run (mark : Char) (length : Nat) (opens closes : Bool)
  /-- A run of backticks, the first perhaps after a backslash. -/
  | ticks (count : Nat) (isEscaped : Bool)
  | angle
  | bracket (isImage : Bool)
  | closing
  | softBreak
  | hardBreak
deriving Repr

/-- A token, what follows it in the source, and how long that is. -/
structure Token where
  kind : TokenKind
  after : List Char
  left : Nat
deriving Repr

/-! ## Marks of emphasis -/

/-- A run may open an emphasis: it stands close to what follows, and not in a word
unless the mark allows that. -/
def mayOpen (mark : Char) (length : Nat) (before after : Option Char) : Bool :=
  match after with
  | none => false
  | some next =>
      if Text.isBlank next then false
      else match before with
        | none => true
        | some last =>
            (mark = '*' && !Text.isPunctuation next) || (mark = '~' && 1 < length) ||
              Text.isBlank last || Text.isPunctuation last

/-- A run may close an emphasis: it stands close to what is before it, and not in a
word unless the mark allows that. -/
def mayClose (mark : Char) (length : Nat) (before after : Option Char) : Bool :=
  match before with
  | none => false
  | some last =>
      if Text.isBlank last then false
      else match after with
        | none => true
        | some next =>
            ((mark = '*' || (mark = '~' && 1 < length)) && !Text.isPunctuation last) ||
              Text.isBlank next || Text.isPunctuation next

def isEmphasisMark (char : Char) : Bool :=
  char = '*' || char = '_' || char = '~'

/-- The token of a run, if it may mean something. Of one mark only short runs do. -/
def runToken? (mark : Char) (length : Nat) (before after : Option Char) : Option TokenKind :=
  let opens := mayOpen mark length before after
  let closes := mayClose mark length before after
  if (opens || closes) && (mark ≠ '~' || length ≤ 2) then some (.run mark length opens closes)
  else none

/-! ## Cutting -/

/-- The state of cutting: the tokens so far, last first, the plain text since the last
one in reverse, and the character before in the same line. -/
structure Cut where
  tokens : List Token
  plain : List Char
  /-- The last plain character stands after a backslash. -/
  isEscaped : Bool
  before : Option Char

def Cut.start : Cut := ⟨[], [], false, none⟩

/-- End the plain text where `left` characters are left. -/
def Cut.flush (cut : Cut) (after : List Char) (left : Nat) : Cut :=
  if cut.plain.isEmpty then cut
  else { cut with tokens := ⟨.text cut.plain.reverse, after, left⟩ :: cut.tokens, plain := [],
                  isEscaped := false }

def Cut.push (cut : Cut) (char : Char) (isEscaped : Bool) : Cut :=
  { cut with plain := char :: cut.plain, isEscaped, before := some char }

/-- Add a token that ends where `after` starts. -/
def Cut.token (cut : Cut) (kind : TokenKind) (before : Option Char) (after : List Char)
    (left : Nat) : Cut :=
  { cut with tokens := ⟨kind, after, left⟩ :: cut.tokens, before }

/-- The end of a line: what the plain text before it leaves, and whether the break is
kept. A backslash keeps it, and so do two blanks. -/
def lineBreak (plain : List Char) (isEscaped : Bool) : List Char × TokenKind :=
  match plain with
  | '\\' :: rest =>
      if isEscaped then (plain, .softBreak) else (rest, .hardBreak)
  | _ =>
      let kept := plain.dropWhile isSpace
      (kept, if kept.length + 2 ≤ plain.length then .hardBreak else .softBreak)

/-- Cut a source into tokens; `left` is its length. -/
def cutFrom : (fuel : Nat) → (left : Nat) → List Char → Cut → Cut
  | 0, _, _, cut => cut
  | _ + 1, _, [], cut => cut
  | fuel + 1, left, char :: rest, cut =>
      let input := char :: rest
      if char = '\n' || char = '\r' then
        let (plain, kind) := lineBreak cut.plain cut.isEscaped
        let cut := { cut with plain }.flush input left
        let next := (afterLineEnd input).dropWhile fun blank => blank = ' ' || blank = '\t'
        let left := next.length
        cutFrom fuel left next (cut.token kind none next left)
      else if char = '\\' then
        match rest with
        | next :: after =>
            if next = '\x60' then
              let (marks, after) := rest.span (· = next)
              let cut := cut.flush input left
              let left := left - 1 - marks.length
              cutFrom fuel left after (cut.token (.ticks marks.length true) (some next) after left)
            else if Text.isAsciiPunctuation next then
              cutFrom fuel (left - 2) after ((cut.flush input left).push next true)
            else cutFrom fuel (left - 1) rest (cut.push char false)
        | [] => cut.push char false
      else if isEmphasisMark char then
        let (marks, after) := input.span (· = char)
        let remaining := left - marks.length
        match runToken? char marks.length cut.before after.head? with
        | some kind =>
            cutFrom fuel remaining after
              ((cut.flush input left).token kind (some char) after remaining)
        | none =>
            cutFrom fuel remaining after
              (marks.foldl (fun cut mark => cut.push mark false) cut)
      else if char = '\x60' then
        let (marks, after) := input.span (· = char)
        let remaining := left - marks.length
        cutFrom fuel remaining after
          ((cut.flush input left).token (.ticks marks.length false) (some char) after remaining)
      else if char = '<' && rest.head? ≠ some '\\' then
        cutFrom fuel (left - 1) rest
          ((cut.flush input left).token .angle (some char) rest (left - 1))
      else if char = '[' then
        cutFrom fuel (left - 1) rest
          ((cut.flush input left).token (.bracket false) (some char) rest (left - 1))
      else if char = ']' then
        cutFrom fuel (left - 1) rest
          ((cut.flush input left).token .closing (some char) rest (left - 1))
      else if char = '!' && rest.head? = some '[' then
        cutFrom fuel (left - 2) rest.tail
          ((cut.flush input left).token (.bracket true) (some '[') rest.tail (left - 2))
      else if char = '&' then
        match reference? rest with
        | some (chars, after) =>
            let remaining := after.length
            cutFrom fuel remaining after
              ((cut.flush input left).token (.text chars) (some ';') after remaining)
        | none => cutFrom fuel (left - 1) rest (cut.push char false)
      else cutFrom fuel (left - 1) rest (cut.push char false)

/-- The tokens of a source. Blanks at its end mean nothing. -/
def tokens (source : List Char) : List Token :=
  let kept := (source.reverse.dropWhile isSpace).reverse
  let length := kept.length
  ((cutFrom length length kept .start).flush [] 0).tokens.reverse

end PromptClient.Markdown
