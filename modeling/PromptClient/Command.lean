import PromptClient.Tool

/-! # Commands

What the program can be asked to do, on the form of one tool.
-/

namespace PromptClient

structure SubmitOrder where
  /-- The prompt, which is stored first. -/
  prompt : Option String
  /-- Stands in for the default prompt. -/
  substitute : Option String
  token : Option String
  credentialFile : Option String
  argumentDebugging : Bool
deriving DecidableEq, Repr

inductive Command
  | status
  | login
  | importSession (cookie : String)
  | logout
  | setField (name value : String)
  /-- Show the fields; the substitute stands in for the default prompt. -/
  | showFields (substitute : Option String)
  /-- List the history, or copy an entry of it into the prompt field. -/
  | history (entry : Option Nat)
  | submit (order : SubmitOrder)
deriving DecidableEq, Repr

structure Invocation where
  tool : Tool
  /-- A configuration file other than the usual one. -/
  configPath : Option String
  resultPath : Option String
  command : Command
deriving DecidableEq, Repr

end PromptClient
