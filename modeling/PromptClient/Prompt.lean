import PromptClient.Text.Blank

/-! # Prompts

A prompt is kept on one line: its lines, trimmed and without the blank ones, with a
space between them.
-/

namespace PromptClient.Prompt

def isLineBreak (char : Char) : Bool :=
  char = '\n' || char = '\r'

/-- The trimmed lines of a prompt that are not blank. -/
def fullLines (prompt : List Char) : List (List Char) :=
  ((Text.splitWhere isLineBreak prompt).map (Text.strip Text.isBlank)).filter (!·.isEmpty)

def normalizeChars (prompt : List Char) : List Char :=
  List.intercalate [' '] (fullLines prompt)

def normalize (prompt : String) : String :=
  String.ofList (normalizeChars prompt.toList)

example : normalize " a\r\n\n b " = "a b" := by cbv

end PromptClient.Prompt
