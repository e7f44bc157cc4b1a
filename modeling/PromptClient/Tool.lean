/-! # Tools and providers

A tool is one kind of summary that the backend offers. It fixes the provider
whose session it needs, the fields of its form, and the place where its settings
are kept.
-/

namespace PromptClient

inductive Provider
  | google
  | slack
deriving DecidableEq, Repr

namespace Provider

/-- The provider's name, which starts all of its keys. -/
def name : Provider → String
  | .google => "google"
  | .slack => "slack"

def ofName? (name : String) : Option Provider :=
  if name = "google" then some .google
  else if name = "slack" then some .slack
  else none

/-- The key of the access token, in cookies and in job requests. -/
def accessTokenKey (provider : Provider) : String :=
  provider.name ++ "_access_token"

/-- The key of the token's expiry in cookies. -/
def expiresKey (provider : Provider) : String :=
  provider.name ++ "_access_token_expires"

/-- The key of an uploaded credential file in job requests. -/
def serviceAccountKey (provider : Provider) : String :=
  provider.name ++ "_service_account_json"

end Provider

/-- What a tool expects of a user who has no session. -/
inductive ManualKind
  | token
  | file
deriving DecidableEq, Repr

structure ToolField where
  /-- The name under which it is stored and edited. -/
  name : String
  /-- The key under which a job request carries it. -/
  payloadKey : String
  default : String
deriving DecidableEq, Repr

def promptField : String := "prompt"
def customModelField : String := "custom_model"
def contextWindowField : String := "context_window"

/-- A kind of summary. -/
inductive Tool
  | googleDocs
  | slackChannel
deriving DecidableEq, Repr

namespace Tool

def all : List Tool := [.googleDocs, .slackChannel]

/-- The identifier that job requests carry. -/
def id : Tool → String
  | .googleDocs => "GoogleDocs"
  | .slackChannel => "SlackChannel"

def storageSpace (tool : Tool) : String :=
  tool.id

def provider : Tool → Provider
  | .googleDocs => .google
  | .slackChannel => .slack

/-- The page to which a login returns. -/
def returnPage : Tool → String
  | .googleDocs => "/google.xhtml"
  | .slackChannel => "/slack.xhtml"

def manualKind : Tool → ManualKind
  | .googleDocs => .file
  | .slackChannel => .token

def defaultPrompt : Tool → String
  | .googleDocs => "Summarize the Google document"
  | .slackChannel => "Summarize 7 days worth of messages from the #announcements channel"

/-- The fields that only this tool has. -/
def fields : Tool → List ToolField
  | .googleDocs =>
      [⟨"document_id", "google_document_id", "195j9eDD3ccgjQRttHhJPymLJUCOUjs-jmwTrekvdjFE"⟩]
  | .slackChannel =>
      [⟨"channel", "slack_channel", "announcements"⟩, ⟨"days", "slack_days", "7"⟩]

def field? (tool : Tool) (name : String) : Option ToolField :=
  tool.fields.find? fun field => field.name = name

/-- The names of all fields, the shared ones first. -/
def fieldNames (tool : Tool) : List String :=
  promptField :: customModelField :: contextWindowField :: tool.fields.map (·.name)

/-- What a field holds as long as nothing has been stored in it. -/
def defaultValue? (tool : Tool) (name : String) : Option String :=
  if name = promptField then some tool.defaultPrompt
  else if name = customModelField then some ""
  else if name = contextWindowField then some "65536"
  else (tool.field? name).map (·.default)

private def plainName (name : String) : List Char :=
  (name.toList.filter fun char => char ≠ '-' && char ≠ '_').map Char.toLower

/-- The tool of that name. Case, hyphens and underscores do not matter, and the
provider's name will do. -/
def ofName? (name : String) : Option Tool :=
  let plain := String.ofList (plainName name)
  if plain = "googledocs" || plain = "google" then some .googleDocs
  else if plain = "slackchannel" || plain = "slack" then some .slackChannel
  else none

example : ofName? "Google-Docs" = some .googleDocs := by cbv

end Tool

end PromptClient
