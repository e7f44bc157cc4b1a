import PromptClient.Json.Printer
import PromptClient.Text.Blank
import PromptClient.Tool

/-! # Job requests

What a form holds, and the JSON body that a submission is sent with. The body has
four members that are always there, followed by the others in order of their keys;
blank ones are left out.
-/

namespace PromptClient

/-- What the form of a tool holds. -/
structure FormValues where
  prompt : String
  customModel : String
  contextWindow : String
  argumentDebugging : Bool
  toolFields : List (String × String)
deriving DecidableEq, Repr, Inhabited

namespace FormValues

def blank : FormValues := ⟨"", "", "", false, []⟩

def get? (values : FormValues) (name : String) : Option String :=
  if name = promptField then some values.prompt
  else if name = customModelField then some values.customModel
  else if name = contextWindowField then some values.contextWindow
  else values.toolFields.lookup name

def set (values : FormValues) (name value : String) : FormValues :=
  if name = promptField then { values with prompt := value }
  else if name = customModelField then { values with customModel := value }
  else if name = contextWindowField then { values with contextWindow := value }
  else { values with toolFields := Json.putMember name value values.toolFields }

end FormValues

/-- The content of a job request. -/
structure JobContext where
  tool : String
  customModel : String
  contextWindow : String
  argumentDebugging : Bool
  /-- Credential and tool fields, in order of their keys. -/
  fields : List (String × String)
deriving DecidableEq, Repr

namespace JobContext

/-- Add a field, in place of one of the same key. A blank text adds nothing. -/
def withField (context : JobContext) (key value : String) : JobContext :=
  if Text.isAllBlank value then context
  else { context with fields := Json.putMember key value context.fields }

/-- The content that a form gives, without a credential. -/
def ofForm (tool : Tool) (values : FormValues) : JobContext :=
  tool.fields.foldl
    (fun context field =>
      match values.toolFields.lookup field.name with
      | some value => context.withField field.payloadKey value
      | none => context)
    { tool := tool.id
      customModel := values.customModel
      contextWindow := values.contextWindow
      argumentDebugging := values.argumentDebugging
      fields := [] }

def members (context : JobContext) : List (String × Json) :=
  [("tool", .text context.tool), ("custom_model", .text context.customModel),
      ("context_window", .text context.contextWindow),
      ("argument_debugging", .bool context.argumentDebugging)] ++
    context.fields.map fun (key, value) => (key, .text value)

def body (context : JobContext) : String :=
  (Json.object context.members).compact

end JobContext

/-- Everything that creates one job. -/
structure Submission where
  prompt : String
  context : JobContext
  /-- The session cookie to forward. -/
  cookie : Option String
deriving DecidableEq, Repr

end PromptClient
