import PromptClient.Text.Blank
import PromptClient.Tool

/-! # Credentials

What a job is authenticated with: the session of the cookie, or a secret that the
user gives instead.
-/

namespace PromptClient

/-- Which kind of credential the form uses. -/
inductive CredentialMode
  | session
  | manual
deriving DecidableEq, Repr, Inhabited

/-- The secret that a user has given, if any. -/
inductive ManualCredential
  | absent
  | token (text : String)
  | file (path : String)
deriving DecidableEq, Repr, Inhabited

/-- There is a secret: a chosen file, or a token that is not blank. -/
def ManualCredential.isPresent : ManualCredential → Bool
  | .absent => false
  | .token text => !Text.isAllBlank text
  | .file _ => true

inductive Credential
  /-- The cookie's text, sent on as it is. -/
  | session (cookie : String)
  | token (text : String)
  | file (path : String)
deriving DecidableEq, Repr

end PromptClient
