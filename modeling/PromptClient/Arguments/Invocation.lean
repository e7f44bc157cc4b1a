import PromptClient.Arguments.Grammar
import PromptClient.Command
import PromptClient.Text.Decimal

/-! # Invocations

The program's own arguments, and what they ask for.
-/

namespace PromptClient.Arguments

/-! ## Options -/

def toolOption : String := "tool"
def configOption : String := "config"
def substituteOption : String := "default-prompt"
def useOption : String := "use"
def promptOption : String := "prompt"
def tokenOption : String := "token"
def credentialFileOption : String := "credential-file"
def debuggingOption : String := "argument-debugging"
def resultOption : String := "output"

/-- A whole number of 64 bits, with or without a plus sign. -/
def entryNumber? (text : String) : Option Nat :=
  let digits := match text.toList with
    | '+' :: rest => rest
    | chars => chars
  (Text.Decimal.natural? digits).filter (· < 18446744073709551616)

def textRule (name : String) : Rule :=
  ⟨name, none, .value fun _ => true⟩

def pathRule (name : String) : Rule :=
  ⟨name, none, .value (· ≠ "")⟩

def sharedRules : List Rule :=
  [⟨toolOption, some 't', .value fun name => (Tool.ofName? name).isSome⟩,
    pathRule configOption, ⟨"help", some 'h', .help⟩]

def submitRules : List Rule :=
  [textRule promptOption, textRule substituteOption, textRule tokenOption,
    pathRule credentialFileOption, ⟨debuggingOption, none, .flag⟩, pathRule resultOption]

def programGrammar : Grammar :=
  .choice (⟨"version", some 'V', .version⟩ :: sharedRules)
    [("status", .words sharedRules 0),
      ("login", .words sharedRules 0),
      ("session", .choice sharedRules [("import", .words sharedRules 1)]),
      ("logout", .words sharedRules 0),
      ("set", .words sharedRules 2),
      ("show", .words (textRule substituteOption :: sharedRules) 0),
      ("history", .words
        (⟨useOption, none, .value fun text => (entryNumber? text).isSome⟩ :: sharedRules) 0),
      ("submit", .words (submitRules ++ sharedRules) 0)]

/-! ## Commands -/

/-- The submission that the options ask for. A token and a credential file cannot
both be given. -/
def submitOrder? (given : Given) : Option SubmitOrder :=
  let token := given.value? tokenOption
  let credentialFile := given.value? credentialFileOption
  if token.isSome && credentialFile.isSome then none
  else some
    { prompt := given.value? promptOption
      substitute := given.value? substituteOption
      token := token
      credentialFile := credentialFile
      argumentDebugging := (given.value? debuggingOption).isSome }

def command? (path : List String) (given : Given) : Option Command :=
  match path, given.words with
  | ["status"], [] => some .status
  | ["login"], [] => some .login
  | ["session", "import"], [cookie] => some (.importSession cookie)
  | ["logout"], [] => some .logout
  | ["set"], [name, value] => some (.setField name value)
  | ["show"], [] => some (.showFields (given.value? substituteOption))
  | ["history"], [] => some (.history ((given.value? useOption).bind entryNumber?))
  | ["submit"], [] => (submitOrder? given).map .submit
  | _, _ => none

/-- The value of an option that every command takes: the innermost one counts. -/
def innermost? (levels : List Given) (name : String) : Option String :=
  levels.reverse.findSome? (·.value? name)

/-- What the arguments of a run ask for. -/
inductive Request
  | help
  | version
  | misuse
  | run (invocation : Invocation)
deriving DecidableEq, Repr

def invocation? (path : List String) (levels : List Given) : Option Invocation := do
  let last ← levels.getLast?
  let command ← command? path last
  let tool ← match innermost? levels toolOption with
    | some name => Tool.ofName? name
    | none => some .googleDocs
  return { tool
           configPath := innermost? levels configOption
           resultPath := last.value? resultOption
           command }

def request (arguments : List String) : Request :=
  match read programGrammar arguments with
  | .help => .help
  | .version => .version
  | .misuse => .misuse
  | .accepted path levels =>
      match invocation? path levels with
      | some invocation => .run invocation
      | none => .misuse

def versionText : String := "promptweb 0.1.0"

def helpText : String :=
  "Submit prompts to the summarizer backend\n\n" ++
  "Usage: promptweb [--tool TOOL] [--config PATH] COMMAND\n\n" ++
  "Commands:\n" ++
  "  status                   Show the session state\n" ++
  "  login                    Open the provider's login page\n" ++
  "  session import COOKIE    Store the cookie delivered by the login callback\n" ++
  "  logout                   Forget the session\n" ++
  "  set FIELD VALUE          Save a form field\n" ++
  "  show                     Print the saved form fields\n" ++
  "  history [--use N]        List recent prompts, or reuse one\n" ++
  "  submit                   Submit the prompt and wait for the result\n"

def misuseText : String :=
  "error: the arguments make no sense\n\nFor more information, try '--help'."

end PromptClient.Arguments
