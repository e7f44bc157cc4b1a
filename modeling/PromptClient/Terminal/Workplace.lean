import PromptClient.Attempt
import PromptClient.Backend
import PromptClient.Command
import PromptClient.Config
import PromptClient.Terminal.Line
import PromptClient.Time.Calendar

/-! # At the terminal

A desk whose commands come from a terminal and whose answers go there. A command
either ends at once or is a submission that waits for the backend; the session is not
looked at again meanwhile, since the terminal shows nothing of it.
-/

namespace PromptClient

/-- A desk at a terminal. -/
structure Workplace where
  desk : Desk FileStorage
  config : Config
  /-- The file for results; without it they are printed. -/
  resultPath : Option String

/-- How far a command has come. -/
inductive Stand
  | ended (status : ExitStatus)
  | waiting (attempt : Attempt)

/-- What a command has brought about so far. -/
structure Turn where
  workplace : Workplace
  lines : List Line
  stand : Stand

namespace Workplace

def tool (place : Workplace) : Tool :=
  place.desk.tool

def providerName (place : Workplace) : String :=
  place.tool.provider.name

def backend (place : Workplace) : Backend :=
  .ofAddress place.config.baseUrl

def files (place : Workplace) : FileTree :=
  place.desk.storage.files

def withFiles (place : Workplace) (files : FileTree) : Workplace :=
  { place with desk := place.desk.withStorage { place.desk.storage with files := files } }

def onLogin (place : Workplace) (change : Login FileStorage → Login FileStorage) : Workplace :=
  { place with desk := place.desk.onLogin change }

def refreshLayout (place : Workplace) : Workplace :=
  { place with desk := place.desk.refreshLayout.1 }

/-- The place with a desk for a tool, in the data folder of a configuration, or why
there is no storage. -/
def start (config : Config) (environment : Environment) (files : FileTree) (tool : Tool)
    (presenter : Presenter) (clock : Int) (browserOpens : Bool) (resultPath : Option String) :
    Except String Workplace :=
  let folder := config.dataFolderIn environment
  match FileStorage.start files folder (config.sessionPath environment) with
  | .error detail => .error ("Failed to open field store in " ++ folder ++ ": " ++ detail)
  | .ok storage =>
      let settings := config.authorizeSettings tool.provider
      let login := Login.start tool settings storage clock browserOpens
      .ok ⟨(Desk.start login config.pollPolicy presenter).1, config, resultPath⟩

/-! ## Endings -/

def succeed (place : Workplace) (lines : List Line) : Turn :=
  ⟨place, lines, .ended .success⟩

def complain (place : Workplace) (message : String) : Turn :=
  ⟨place, [.err ("Error: " ++ message)], .ended .failure⟩

/-! ## Session -/

def sessionLine (place : Workplace) : String :=
  let login := place.desk.login
  match login.state with
  | .loggedIn =>
      let expiry := (login.currentSession?.bind (·.expiresAt)).bind Calendar.utcText?
      "Session:  logged in to " ++ place.providerName ++
        (match expiry with
          | some time => " until " ++ time
          | none => "")
  | .awaitingCallback => "Session:  waiting for login to finish"
  | .loggedOut => "Session:  logged out"

/-- Show where things stand. -/
def status (place : Workplace) : Turn :=
  let fresh := (place.onLogin Login.refresh).refreshLayout
  fresh.succeed
    [.out ("Tool:     " ++ fresh.tool.id),
      .out ("Backend:  " ++ fresh.config.baseUrl),
      .out fresh.sessionLine,
      .out (if fresh.desk.form.layout.logoutVisible then "Ready to submit."
        else "Run \x60login\x60, or submit with a manual credential.")]

/-- Begin a login, in a browser if one opens. -/
def login (place : Workplace) : Turn :=
  let url := place.desk.login.authorizeUrl
  let heading :=
    if place.desk.login.browserOpens then
      "Opened " ++ place.providerName ++ " login in your browser:"
    else "Open this URL to log in:"
  succeed { place with desk := place.desk.beginLogin.1 }
    [.out (heading ++ "\n  " ++ url),
      .out ("After approving, copy the \x60session\x60 cookie and run:\n  promptweb --tool " ++
        place.tool.id ++ " session import <cookie>")]

def importSession (place : Workplace) (cookie : String) : Turn :=
  let after := place.onLogin (·.completeLogin cookie)
  if after.desk.login.state = .loggedIn then
    after.refreshLayout.succeed [.out ("Logged in to " ++ place.providerName)]
  else
    after.complain ("The cookie does not carry a valid " ++ place.providerName ++ " session")

def logout (place : Workplace) : Turn :=
  (place.onLogin Login.logout).refreshLayout.succeed
    [.out ("Logged out of " ++ place.providerName)]

/-! ## Fields -/

def setField (place : Workplace) (name value : String) : Turn :=
  match place.desk.updateField name value with
  | .ok desk => succeed { place with desk := desk } [.out ("Saved " ++ name)]
  | .error fault => place.complain fault.message

def padEnd (width : Nat) (text : String) : String :=
  text ++ String.ofList (List.replicate (width - text.length) ' ')

def padStart (width : Nat) (text : String) : String :=
  String.ofList (List.replicate (width - text.length) ' ') ++ text

def showFields (place : Workplace) (substitute : Option String) : Turn :=
  let values := place.desk.load substitute
  let stored := (place.desk.storage.table.snapshot place.tool.storageSpace).map (·.1)
  place.succeed (place.tool.fieldNames.map fun name =>
    let mark := if stored.contains name then "" else " (default)"
    .out (padEnd 16 name ++ " " ++ (values.get? name).getD "" ++ mark))

/-- List the prompts submitted last. -/
def listHistory (place : Workplace) : Turn :=
  match place.desk.history with
  | [] => place.succeed [.out ("No saved prompts for " ++ place.tool.storageSpace)]
  | entries =>
      place.succeed (entries.mapIdx fun index entry =>
        .out (padStart 2 (Text.Decimal.ofNat (index + 1)) ++ ". " ++ entry))

def useEntry (place : Workplace) : (number : Nat) → Turn
  | 0 => place.complain "History entries are numbered from 1"
  | index + 1 =>
      match place.desk.select index with
      | (some entry, desk) =>
          succeed { place with desk := desk } [.out ("Prompt set to: " ++ entry)]
      | (none, _) => place.complain ("No history entry " ++ Text.Decimal.ofNat (index + 1))

/-! ## Submitting -/

def deliver (place : Workplace) (html : String) : Workplace × List Line :=
  match place.resultPath with
  | none => (place, [.out html])
  | some path =>
      match place.files.write path (Text.Utf8.encode html) with
      | .ok files => (place.withFiles files, [.err ("Result written to " ++ path)])
      | .error _ => (place, [.out html])

def notify (place : Workplace) : Notice → Workplace × List Line
  | .status text => (place, [.err text])
  | .html text => place.deliver text
  | .error text => (place, [.err text])
  | .alert text => (place, [.err ("⚠️  " ++ text)])

def follow (place : Workplace) : List Event → Workplace × List Line
  | [] => (place, [])
  | .notice shown :: rest =>
      let (next, lines) := place.notify shown
      let (last, more) := next.follow rest
      (last, lines ++ more)
  | _ :: rest => place.follow rest

/-- How a submission has ended, and what is still to be said about it. -/
def ending (outcome : Except Failure String) : List Line × ExitStatus :=
  match outcome with
  | .ok _ => ([], .success)
  | .error .busy => ([.err Failure.busy.message], .failure)
  | .error _ => ([], .failure)

def takeUp (place : Workplace) (result : Desk FileStorage × List Event × Attempt) : Turn :=
  let (desk, events, attempt) := result
  let (after, lines) := { place with desk := desk }.follow events
  match attempt with
  | .over outcome =>
      let (last, status) := ending outcome
      ⟨after, lines ++ last, .ended status⟩
  | .crashed => ⟨after, lines, .ended .failure⟩
  | waiting => ⟨after, lines, .waiting waiting⟩

/-- The credential that an order brings along; a token goes before a file. -/
def credentialOf (order : SubmitOrder) : ManualCredential :=
  match order.token, order.credentialFile with
  | some token, _ => .token token
  | none, some path => .file path
  | none, none => .absent

/-- Use a manual credential from now on, unless it is blank. -/
def giveCredential (desk : Desk FileStorage) (credential : ManualCredential) :
    Desk FileStorage :=
  if credential.isPresent then ((desk.setMode .manual).1.setManual credential).1 else desk

def storePrompt (desk : Desk FileStorage) (order : SubmitOrder) :
    Except ValidationFault (Desk FileStorage) :=
  match order.prompt with
  | none => .ok desk
  | some prompt => desk.updateField promptField prompt

def submit (place : Workplace) (order : SubmitOrder) : Turn :=
  match storePrompt place.desk order with
  | .error fault => place.complain fault.message
  | .ok desk =>
      let values :=
        { desk.load order.substitute with argumentDebugging := order.argumentDebugging }
      place.takeUp ((giveCredential desk (credentialOf order)).submit values)

/-- Go on with a submission after the backend's reply or the end of a pause. -/
def proceed (place : Workplace) (attempt : Attempt) (reply : Reply) : Turn :=
  place.takeUp (place.desk.step attempt reply)

def interrupt (place : Workplace) (attempt : Attempt) : Turn :=
  ⟨{ place with desk := (place.desk.cancel attempt).1 },
    [.err "Cancelled. The backend keeps working on the job."], .ended .interrupted⟩

/-! ## Commands -/

def perform (place : Workplace) : Command → Turn
  | .status => place.status
  | .login => place.login
  | .importSession cookie => place.importSession cookie
  | .logout => place.logout
  | .setField name value => place.setField name value
  | .showFields substitute => place.showFields substitute
  | .history none => place.listHistory
  | .history (some number) => place.useEntry number
  | .submit order => place.submit order

end Workplace

end PromptClient
