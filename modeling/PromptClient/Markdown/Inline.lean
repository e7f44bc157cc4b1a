import PromptClient.Markdown.Emphasis
import PromptClient.Markdown.Tag
import PromptClient.Markdown.Target
import PromptClient.Markdown.Token

/-! # Inlines

The tokens of a text become inlines. Code, tags and addresses in angle brackets are
found first, from left to right, and a closing bracket looks back for the one it
belongs to.
-/

namespace PromptClient.Markdown

/-! ## Addresses in angle brackets -/

/-- What follows a scheme and its colon. A scheme has between two and thirty-two
characters. -/
def afterScheme? (input : List Char) : Option (List Char) :=
  let (scheme, after) := input.span fun char =>
    char.isAlphanum || char = '.' || char = '-' || char = '+'
  match scheme, after with
  | first :: _, ':' :: rest =>
      if first.isAlpha && 2 ≤ scheme.length && scheme.length ≤ 32 then some rest else none
  | _, _ => none

def pointedUrl? (input : List Char) : Option (List Char × List Char) := do
  let rest ← afterScheme? input
  match rest.dropWhile fun char => 32 < char.toNat && char ≠ '<' && char ≠ '>' with
  | '>' :: after => some (input.take (input.length - after.length - 1), after)
  | _ => none

/-- A character that may stand before the sign of a mail address. -/
def isMailChar (char : Char) : Bool :=
  char.isAlphanum || ".!#$%&'*+/=?^_\x60\x7b|\x7d~-".toList.contains char

/-- A part of a mail address's host: at most sixty-three letters, digits and hyphens, a
hyphen neither first nor last. -/
def isHostLabel (label : List Char) : Bool :=
  !label.isEmpty && label.length ≤ 63 && label.head? ≠ some '-' && label.getLast? ≠ some '-'

def afterMailHost? : (fuel : Nat) → List Char → Option (List Char)
  | 0, _ => none
  | fuel + 1, input =>
      let (label, after) := input.span fun char => char.isAlphanum || char = '-'
      if isHostLabel label then
        match after with
        | '.' :: rest => afterMailHost? fuel rest
        | _ => some after
      else none

def pointedMail? (input : List Char) : Option (List Char × List Char) :=
  let (name, after) := input.span isMailChar
  match after with
  | '@' :: rest =>
      if name.isEmpty then none
      else match afterMailHost? (rest.length + 1) rest with
        | some ('>' :: after) => some (input.take (input.length - after.length - 1), after)
        | _ => none
  | _ => none

def angled? (input : List Char) : Option (Inline × List Char) :=
  match pointedUrl? input with
  | some (address, after) => some (.link address [] [.text address], after)
  | none => match pointedMail? input with
    | some (address, after) =>
        some (.link ("mailto:".toList ++ address) [] [.text address], after)
    | none => (afterMarkup? input).map fun after =>
        (.html ('<' :: input.take (input.length - after.length)), after)

/-! ## Code -/

/-- Code as it is shown: line ends are spaces, and of spaces on both sides one each is
left out unless there is nothing else. -/
def codeText (source : List Char) : List Char :=
  let text := joinLines source.length source
  if text.all (· = ' ') then text
  else if text.head? = some ' ' && text.getLast? = some ' ' then (text.drop 1).dropLast
  else text
where
  joinLines : (fuel : Nat) → List Char → List Char
    | 0, input => input
    | _ + 1, [] => []
    | fuel + 1, char :: rest =>
        if startsLineEnd (char :: rest) then ' ' :: joinLines fuel (afterLineEnd (char :: rest))
        else char :: joinLines fuel rest

/-- The tokens after the run of as many backticks, with that run. -/
def closingTicks? (count : Nat) : List Token → Option (Token × List Token)
  | [] => none
  | token :: rest =>
      match token.kind with
      | .ticks length _ => if length = count then some (token, rest) else closingTicks? count rest
      | _ => closingTicks? count rest

/-! ## Tokens -/

/-- The tokens from the place where `left` characters are left. A text that reaches
beyond it loses its start. -/
def tokensFrom (left : Nat) : List Token → List Token
  | [] => []
  | token :: rest =>
      if left ≤ token.left then tokensFrom left rest
      else match token.kind with
        | .text value =>
            { token with kind := .text (value.drop (value.length - (left - token.left))) } :: rest
        | _ => token :: rest

/-- An opening bracket that has not been closed. -/
structure Bracket where
  isImage : Bool
  isActive : Bool
  /-- The pieces before it, last first. -/
  before : List Piece
  /-- The source after it, and its length. -/
  after : List Char
  left : Nat

def textPiece (value : List Char) : Piece := .inline (.text value)

/-- The pieces up to the end of an opening bracket that stays text. -/
def Bracket.asText (bracket : Bracket) : List Piece :=
  textPiece (if bracket.isImage then ['!', '['] else ['[']) :: bracket.before

/-- The target of a link whose text ends before `after`, and what follows the link.
`label` is the source of its text. -/
def target? (definitions : Definitions) (label after : List Char) :
    Option (LinkTarget × List Char) :=
  match inlineTarget? after with
  | some found => some found
  | none =>
      let own (rest : List Char) : Option (LinkTarget × List Char) :=
        match label? (label ++ [']']) with
        | some (name, []) => (definitions.lookup name).map fun target => (target, rest)
        | _ => none
      match after with
      | '[' :: ']' :: rest => own rest
      | '[' :: rest =>
          match label? rest with
          | some (name, rest) => (definitions.lookup name).map fun target => (target, rest)
          | none => own after
      | _ => own after

/-- No link may start at these brackets any more. -/
def deactivate (brackets : List Bracket) : List Bracket :=
  brackets.map fun bracket =>
    if bracket.isImage then bracket else { bracket with isActive := false }

/-- Read tokens. `pieces` are those since the innermost open bracket, last first. -/
def readTokens (definitions : Definitions) :
    (fuel : Nat) → List Token → List Bracket → List Piece → List Piece
  | 0, _, brackets, pieces => brackets.foldl (fun pieces bracket => pieces ++ bracket.asText) pieces
  | _ + 1, [], brackets, pieces =>
      brackets.foldl (fun pieces bracket => pieces ++ bracket.asText) pieces
  | fuel + 1, token :: rest, brackets, pieces =>
      let plain (value : List Char) := readTokens definitions fuel rest brackets
        (textPiece value :: pieces)
      match token.kind with
      | .text value => plain value
      | .softBreak => readTokens definitions fuel rest brackets (.inline .softBreak :: pieces)
      | .hardBreak => readTokens definitions fuel rest brackets (.inline .hardBreak :: pieces)
      | .run mark length opens closes =>
          readTokens definitions fuel rest brackets (.run mark length opens closes :: pieces)
      | .ticks count isEscaped =>
          let pieces := if isEscaped then textPiece ['\x60'] :: pieces else pieces
          let count := if isEscaped then count - 1 else count
          match if count = 0 then none else closingTicks? count rest with
          | some (close, after) =>
              let code := token.after.take (token.left - close.left - count)
              readTokens definitions fuel after brackets (.inline (.code (codeText code)) :: pieces)
          | none =>
              readTokens definitions fuel rest brackets
                (textPiece (List.replicate count '\x60') :: pieces)
      | .angle =>
          match angled? token.after with
          | some (value, after) =>
              readTokens definitions fuel (tokensFrom after.length rest) brackets
                (.inline value :: pieces)
          | none => plain ['<']
      | .bracket isImage =>
          readTokens definitions fuel rest
            (⟨isImage, true, pieces, token.after, token.left⟩ :: brackets) []
      | .closing =>
          match brackets with
          | [] => plain [']']
          | bracket :: outer =>
              let label := bracket.after.take (bracket.left - token.left - 1)
              match if bracket.isActive then target? definitions label token.after else none with
              | some (target, after) =>
                  let parts := resolve pieces.reverse
                  let value : Inline :=
                    if bracket.isImage then .image target.address target.title parts
                    else .link target.address target.title parts
                  readTokens definitions fuel (tokensFrom after.length rest)
                    (if bracket.isImage then outer else deactivate outer)
                    (.inline value :: bracket.before)
              | none =>
                  readTokens definitions fuel rest outer
                    (textPiece [']'] :: (pieces ++ bracket.asText))

def inlines (definitions : Definitions) (source : List Char) : List Inline :=
  let found := tokens source
  resolve (readTokens definitions (found.length + 1) found [] []).reverse

end PromptClient.Markdown
