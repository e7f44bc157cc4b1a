import PromptClient.Html.Modes

/-! # Parsing a fragment

A source is read token by token into a tree. What an element without markup holds is
read up to the tag that closes it.
-/

namespace PromptClient.Html

/-- The text of an element without markup, and what follows the tag that closes it. -/
def verbatimText (name : String) (input : List Char) : List Char × List Char :=
  if name = "plaintext" then (input.map withoutNul, [])
  else if name = "script" then ([], afterScript .bare 0 input)
  else
    let (body, after) := verbatim name.toList input
    if name = "title" || name = "textarea" then
      (resolveText false (body.length + 1) body, after)
    else (body, after)

/-- Take the text of the element without markup that is open, and close it. -/
def takeVerbatim (text : List Char) (builder : Builder) : Builder :=
  let text := match text with
    | '\n' :: rest => if builder.skipsLineFeed then rest else text
    | _ => text
  { (builder.insertText text).pop with mode := builder.nextMode, skipsLineFeed := false }

def readSource : (fuel : Nat) → List Char → Builder → Builder
  | 0, _, builder => builder
  | _ + 1, [], builder => builder
  | fuel + 1, char :: rest, builder =>
      let input := char :: rest
      if builder.mode = .verbatim then
        let (text, after) := verbatimText builder.current.tag.name input
        readSource fuel after (takeVerbatim text builder)
      else
        let (token, after) := token (builder.current.vocabulary ≠ .html) input
        let builder := match token with
          | .text [] => { builder with skipsLineFeed := false }
          | _ => takeToken token builder
        readSource fuel after builder

def parse (text : String) : List Node :=
  let input := normalizeSource text.toList
  (readSource (input.length + 1) input .start).draft.nodesOf

end PromptClient.Html
