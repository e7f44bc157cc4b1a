import PromptClient.Form
import PromptClient.History
import PromptClient.Job
import PromptClient.Login
import PromptClient.Presenter

/-! # The desk

A desk is the form of one tool at work: its login, its lock and layout, the
credential chosen, and the storage behind them. Operations return the desk as it is
afterwards together with what could be seen meanwhile.
-/

namespace PromptClient

/-- What can be seen of a desk from outside. -/
inductive Event
  | notice (shown : Notice)
  | form (snapshot : FormSnapshot)
  | call (request : BackendCall)
  | pause (length : Duration)
  | visit (url : String)
deriving DecidableEq, Repr

def Event.ofErrand : ErrandEvent → Event
  | .call request => .call request
  | .pause length => .pause length

/-- The form of one tool at work. -/
structure Desk (σ : Type) where
  login : Login σ
  form : Form
  mode : CredentialMode
  manual : ManualCredential
  policy : PollPolicy
  presenter : Presenter

namespace Desk

variable {σ : Type} [Storage σ]

def tool (desk : Desk σ) : Tool :=
  desk.login.tool

def storage (desk : Desk σ) : σ :=
  desk.login.storage

def withStorage (desk : Desk σ) (storage : σ) : Desk σ :=
  { desk with login := { desk.login with storage := storage } }

/-! ## Layout -/

def derivedLayout (desk : Desk σ) : CredentialLayout :=
  CredentialLayout.derive desk.mode desk.login.hasSession desk.manual.isPresent

def setLayout (desk : Desk σ) (layout : CredentialLayout) : Desk σ × List Event :=
  ({ desk with form := desk.form.withLayout layout }, (desk.form.shownFor layout).map .form)

def refreshLayout (desk : Desk σ) : Desk σ × List Event :=
  desk.setLayout desk.derivedLayout

def setMode (desk : Desk σ) (mode : CredentialMode) : Desk σ × List Event :=
  { desk with mode := mode }.refreshLayout

def setManual (desk : Desk σ) (manual : ManualCredential) : Desk σ × List Event :=
  { desk with manual := manual }.refreshLayout

def start (login : Login σ) (policy : PollPolicy) (presenter : Presenter) :
    Desk σ × List Event :=
  refreshLayout
    { login := login
      form := .initial
      mode := .session
      manual := .absent
      policy := policy
      presenter := presenter }

/-- Change the login, as from outside. -/
def onLogin (desk : Desk σ) (change : Login σ → Login σ) : Desk σ :=
  { desk with login := change desk.login }

/-- Send the user to the provider; the address is visited even if no browser opens. -/
def beginLogin (desk : Desk σ) : Desk σ × List Event :=
  (desk.onLogin Login.beginLogin, [.visit desk.login.authorizeUrl])

/-! ## Lock -/

/-- Take the form's lock, unless it is taken. -/
def lock? (desk : Desk σ) : Option (Desk σ × List Event) :=
  (desk.form.lock?).map fun form => ({ desk with form := form }, [.form form.snapshot])

def unlock (desk : Desk σ) : Desk σ × List Event :=
  let form := desk.form.unlock
  ({ desk with form := form }, [.form form.snapshot])

/-! ## Fields -/

/-- What a field holds: what is stored, or else its default. `substitute` stands in
for the default prompt, unless it is blank. -/
def fieldValue (desk : Desk σ) (substitute : Option String) (name : String) : String :=
  match FieldStore.field? desk.storage desk.tool.storageSpace name with
  | some value => value
  | none =>
      if name = promptField then
        match substitute.map Prompt.normalize with
        | some prompt => if prompt = "" then desk.tool.defaultPrompt else prompt
        | none => desk.tool.defaultPrompt
      else (desk.tool.defaultValue? name).getD ""

def load (desk : Desk σ) (substitute : Option String) : FormValues :=
  desk.tool.fieldNames.foldl
    (fun values name => values.set name (desk.fieldValue substitute name)) .blank

def updateField (desk : Desk σ) (name value : String) : Except ValidationFault (Desk σ) :=
  if desk.tool.fieldNames.contains name then
    .ok (desk.withStorage
      (FieldStore.setField desk.tool.storageSpace name value desk.storage))
  else .error (.unknownField desk.tool.id name)

/-- The prompts submitted last. -/
def history (desk : Desk σ) : List String :=
  History.list desk.storage desk.tool.storageSpace

def select (desk : Desk σ) (index : Nat) : Option String × Desk σ :=
  let (entry, storage) := History.select desk.storage desk.tool.storageSpace index
  (entry, desk.withStorage storage)

end Desk

end PromptClient
