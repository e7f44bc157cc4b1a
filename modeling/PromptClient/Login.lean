import PromptClient.Authorize
import PromptClient.Credential
import PromptClient.Failure
import PromptClient.Storage

/-! # Logging in

The login of one tool: where it stands, and which credential a job may use. The
cookie is read afresh on every call; only the state is remembered, and every change
of it is announced to whoever watches.
-/

namespace PromptClient

/-- Where the login of a tool stands. -/
inductive LoginState
  | loggedOut
  /-- Sent to the provider; the cookie has not come back. -/
  | awaitingCallback
  | loggedIn
deriving DecidableEq, Repr

/-- The login of one tool, with the storage it reads and the world around it. -/
structure Login (σ : Type) where
  tool : Tool
  settings : AuthorizeSettings
  storage : σ
  /-- The time of day, in epoch seconds. -/
  clock : Int
  browserOpens : Bool
  state : LoginState
  /-- How many changes of the state have been announced. -/
  changes : Nat

namespace Login

variable {σ : Type} [Storage σ]

/-- The text of the cookie, as long as the cookie is live. -/
def sessionCookie? (login : Login σ) : Option String :=
  ((Storage.cookie? login.storage).filter (·.isLiveAt login.clock)).map (·.value)

/-- The session in the cookie. A cookie that cannot be read carries none. -/
def currentSession? (login : Login σ) : Option Session :=
  match login.sessionCookie? with
  | none => none
  | some raw =>
      match Session.decode login.tool.provider raw with
      | .ok session => session
      | .error _ => none

/-- There is a session and it is valid now. -/
def isValid (login : Login σ) : Option Session → Bool
  | none => false
  | some session => session.isValidAt login.clock

def hasSession (login : Login σ) : Bool :=
  login.isValid login.currentSession?

def isReady (login : Login σ) (mode : CredentialMode) (session : Option Session)
    (manual : ManualCredential) : Bool :=
  match mode with
  | .session => login.isValid session
  | .manual => manual.isPresent

def readiness (login : Login σ) (mode : CredentialMode) (manual : ManualCredential) : Bool :=
  login.isReady mode login.currentSession? manual

def sessionCredential (login : Login σ) : Except ValidationFault Credential :=
  match login.sessionCookie? with
  | none => .error .notLoggedIn
  | some cookie =>
      match Session.decode login.tool.provider cookie with
      | .ok session =>
          if login.isValid session then .ok (.session cookie) else .error .notLoggedIn
      | .error _ => .error .notLoggedIn

def missingManual (tool : Tool) : ValidationFault :=
  match tool.manualKind with
  | .token => .missingToken
  | .file => .missingFile

/-- The secret that the user has given, a token without the blanks around it. -/
def manualCredential (tool : Tool) : ManualCredential → Except ValidationFault Credential
  | .token text =>
      if Text.isAllBlank text then .error (missingManual tool)
      else .ok (.token (Text.trim text))
  | .file path => .ok (.file path)
  | .absent => .error (missingManual tool)

/-- The credential to send with a job, or why there is none. -/
def resolveCredential (login : Login σ) (mode : CredentialMode)
    (manual : ManualCredential) : Except ValidationFault Credential :=
  match mode with
  | .session => login.sessionCredential
  | .manual => manualCredential login.tool manual

def authorizeUrl (login : Login σ) : String :=
  login.settings.url login.tool.returnPage

/-! ## Changes of state -/

/-- Go over to a state, and announce it unless it is the present one. -/
def moveTo (login : Login σ) (next : LoginState) : Login σ :=
  if login.state = next then login
  else { login with state := next, changes := login.changes + 1 }

/-- The state that the cookie and the clock give. Waiting for a callback goes on
until there is a valid session. -/
def derivedState (login : Login σ) : LoginState :=
  if login.hasSession then .loggedIn
  else if login.state = .awaitingCallback then .awaitingCallback
  else .loggedOut

def refresh (login : Login σ) : Login σ :=
  login.moveTo login.derivedState

def start (tool : Tool) (settings : AuthorizeSettings) (storage : σ) (clock : Int)
    (browserOpens : Bool) : Login σ :=
  refresh
    { tool := tool
      settings := settings
      storage := storage
      clock := clock
      browserOpens := browserOpens
      state := .loggedOut
      changes := 0 }

/-- Send the user to the provider. If no browser opens, nothing changes. -/
def beginLogin (login : Login σ) : Login σ :=
  if login.browserOpens then login.moveTo .awaitingCallback else login

/-- Take the cookie that the callback delivered. -/
def completeLogin (login : Login σ) (value : String) : Login σ :=
  let saved := { login with
    storage := Storage.saveCookie (Cookie.lasting (Text.trim value)) login.storage }
  saved.moveTo (if saved.hasSession then .loggedIn else .loggedOut)

/-- Let the cookie expire. -/
def logout (login : Login σ) : Login σ :=
  { login with storage := Storage.saveCookie Cookie.cleared login.storage }.moveTo .loggedOut

/-! ## The world around -/

def withCookie (login : Login σ) (cookie : Cookie) : Login σ :=
  { login with storage := Storage.saveCookie cookie login.storage }

def withClock (login : Login σ) (clock : Int) : Login σ :=
  { login with clock := clock }

/-- The clock goes on; it wraps around at 64 bits. -/
def advanceClock (login : Login σ) (seconds : Int) : Login σ :=
  login.withClock (Int.bmod (login.clock + seconds) 18446744073709551616)

end Login

end PromptClient
