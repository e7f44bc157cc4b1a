import PromptClient.Authorize
import PromptClient.Environment
import PromptClient.Job
import PromptClient.Toml.Document

/-! # Configuration

What a configuration file says, with a default for everything it leaves out. A
period of zero seconds would never let anything else happen, so it is raised to one.
-/

namespace PromptClient

/-- Why there is no configuration. -/
inductive ConfigFault
  | unreadable (path : String) (fault : FileFault)
  | invalid (path : String)
deriving DecidableEq, Repr

def ConfigFault.message : ConfigFault → String
  | .unreadable path fault => "Failed to read config " ++ path ++ ": " ++ fault.message
  | .invalid path => "Invalid config " ++ path

/-- The contents of a configuration. Times are in seconds. -/
structure Config where
  baseUrl : String
  pollInterval : Nat
  sessionRefresh : Nat
  /-- How long to wait for a result; without it, as long as it takes. -/
  maxWait : Option Nat
  requestTimeout : Nat
  dataFolder : Option String
  google : ProviderSettings
  slack : ProviderSettings
deriving DecidableEq, Repr, Inhabited

namespace Config

def standard : Config :=
  { baseUrl := "https://localhost:8181"
    pollInterval := 30
    sessionRefresh := 60
    maxWait := none
    requestTimeout := 30
    dataFolder := none
    google := .unset
    slack := .unset }

/-! ## Reading -/

/-- What a table says under a name: nothing, or something that `read?` accepts. -/
def optional? (read? : Toml → Option α) (name : String) (table : Toml.Members) :
    Option (Option α) :=
  match table.lookup name with
  | none => some none
  | some value => (read? value).map some

def text? : Toml → Option String
  | .text value => some value
  | _ => none

def seconds? : Toml → Option Nat
  | .integer (.ofNat value) => some value
  | _ => none

def providerTable? (table : Toml.Members) : Option ProviderSettings := do
  let clientId ← optional? text? "client_id" table
  let redirectUri ← optional? text? "redirect_uri" table
  let authorizeUrl ← optional? text? "authorize_url" table
  let scope ← optional? text? "scope" table
  some ⟨clientId.getD "", redirectUri, authorizeUrl, scope⟩

/-- An item of a list, if there are so many. -/
def item? (items : List Toml) (index : Nat) : Option (Option String) :=
  match items[index]? with
  | none => some none
  | some value => (text? value).map some

/-- The settings of a provider: a table, or a list of them in order. A time is a
table in which nothing is set. -/
def provider? : Toml → Option ProviderSettings
  | .table _ members => providerTable? members
  | .moment => some .unset
  | .array items => do
      let clientId ← item? items 0
      let redirectUri ← item? items 1
      let authorizeUrl ← item? items 2
      let scope ← item? items 3
      some ⟨clientId.getD "", redirectUri, authorizeUrl, scope⟩
  | _ => none

/-- A period that is not zero. -/
def period (seconds : Nat) : Nat := max seconds 1

/-- The configuration that a table says. Names that mean nothing are passed over. -/
def ofTable? (table : Toml.Members) : Option Config := do
  let baseUrl ← optional? text? "base_url" table
  let pollInterval ← optional? seconds? "poll_interval_secs" table
  let sessionRefresh ← optional? seconds? "session_refresh_secs" table
  let maxWait ← optional? seconds? "max_wait_secs" table
  let requestTimeout ← optional? seconds? "request_timeout_secs" table
  let dataFolder ← optional? text? "data_dir" table
  let google ← optional? provider? "google" table
  let slack ← optional? provider? "slack" table
  some
    { baseUrl := baseUrl.getD standard.baseUrl
      pollInterval := period (pollInterval.getD standard.pollInterval)
      sessionRefresh := period (sessionRefresh.getD standard.sessionRefresh)
      maxWait
      requestTimeout := requestTimeout.getD standard.requestTimeout
      dataFolder
      google := google.getD standard.google
      slack := slack.getD standard.slack }

def parse? (text : String) : Option Config := do
  let table ← Toml.document? text
  ofTable? table

def defaultPath (environment : Environment) : String :=
  match environment.value? "PROMPTWEB_CONFIG" with
  | some path => path
  | none =>
      FileTree.join (FileTree.join environment.configFolder "promptweb") "config.toml"

/-- The configuration in a file; without the file, the standard one. A variable may
name another backend. -/
def load (environment : Environment) (files : FileTree) (path : String) :
    Except ConfigFault Config := do
  let config ←
    if files.hasEntry path then
      match files.readText path with
      | .error fault => throw (.unreadable path fault)
      | .ok text =>
          match parse? text with
          | some config => pure config
          | none => throw (.invalid path)
    else pure standard
  match environment.value? "PROMPTWEB_BASE_URL" with
  | some baseUrl => pure { config with baseUrl }
  | none => pure config

/-! ## What follows from it -/

def dataFolderIn (config : Config) (environment : Environment) : String :=
  config.dataFolder.getD (FileTree.join environment.dataFolder "promptweb")

def sessionPath (config : Config) (environment : Environment) : String :=
  FileTree.join (config.dataFolderIn environment) "session.json"

def logFolder (config : Config) (environment : Environment) : String :=
  FileTree.join (config.dataFolderIn environment) "logs"

def pollPolicy (config : Config) : PollPolicy :=
  { interval := .ofSeconds config.pollInterval
    maxWait := config.maxWait.map .ofSeconds }

def sessionPeriod (config : Config) : Duration := .ofSeconds config.sessionRefresh

def requestLimit (config : Config) : Duration := .ofSeconds config.requestTimeout

def authorizeSettings (config : Config) (provider : Provider) : AuthorizeSettings :=
  .ofProvider provider (match provider with
    | .google => config.google
    | .slack => config.slack)

/-- No accepted configuration polls without a pause. -/
theorem pollInterval_pos {table : Toml.Members} {config : Config}
    (accepted : ofTable? table = some config) : 1 ≤ config.pollInterval := by
  simp only [ofTable?, Option.bind_eq_bind, Option.bind_eq_some_iff, Option.some.injEq] at accepted
  obtain ⟨_, _, _, _, _, _, _, _, _, _, _, _, _, _, _, _, rfl⟩ := accepted
  exact Nat.le_max_right _ _

end Config

end PromptClient
