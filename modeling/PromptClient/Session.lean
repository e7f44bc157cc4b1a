import PromptClient.Json.Printer
import PromptClient.Json.Reader
import PromptClient.Number.Scientific
import PromptClient.Text.Base64
import PromptClient.Text.Blank
import PromptClient.Tool

/-! # Sessions

A session is a provider's access token with its expiry. It travels as the Base64
form of a JSON object keyed by provider. Reading such a cookie never turns an
expiry that cannot be understood into a session without one.
-/

namespace PromptClient

open Number

/-- An access token and the time, in epoch seconds, from which on it is void. -/
structure Session where
  accessToken : String
  expiresAt : Option Int
deriving DecidableEq, Repr

namespace Session

/-- Later than the time `now`; an absent time never comes. -/
def outlives (expires : Option Int) (now : Int) : Bool :=
  match expires with
  | none => true
  | some time => decide (time > now)

/-- The token is there and has not reached its expiry. -/
def isValidAt (session : Session) (now : Int) : Bool :=
  session.accessToken ≠ "" && outlives session.expiresAt now

/-- Why a cookie carries no readable session. -/
inductive Fault
  | base64 (fault : Text.Base64.Fault)
  | notObject
  | expiry (value : Json)
deriving Repr

/-- The wording of a fault. What is wrong with the JSON is not worked out. -/
def Fault.message : Fault → String
  | .base64 fault => "session cookie is not valid base64: " ++ fault.message
  | .notObject => "session cookie is not a JSON object"
  | .expiry value => "session cookie has an unreadable expiry: " ++ value.sorted.compact

/-! ## Expiries -/

/-- A floating-point time as whole seconds, rounded down and kept within range. -/
def wholeSeconds (time : Binary64) : Int :=
  clampInt64 time.floor

/-- The time that a text gives: an integer in range, or else a number in
scientific notation. -/
def expiryOfText? (text : List Char) : Option Int :=
  let trimmed := Text.strip Text.isBlank text
  let exact := (Text.Decimal.integer? trimmed).filter fitsInt64
  match exact with
  | some time => some time
  | none => (scientific? trimmed).map wholeSeconds

/-- The time that a JSON value gives, if it is a number or a text that gives one. -/
def expiry? : Json → Option Int
  | .number (.whole value) =>
      if fitsInt64 value then some value
      else (Binary64.ofRatio? (value < 0) value.natAbs 1).map wholeSeconds
  | .number (.real value) => some (wholeSeconds value)
  | .text value => expiryOfText? value.toList
  | _ => none

/-! ## Cookies -/

/-- A cookie without the blanks around it and the quotes inside those. -/
def bareCookie (raw : String) : String :=
  String.ofList (Text.strip (· == '"') (Text.strip Text.isBlank raw.toList))

def objectOfBytes? (bytes : List UInt8) : Option (List (String × Json)) :=
  match (Text.Utf8.decode? bytes).bind Json.parse? with
  | some (.object members) => some members
  | _ => none

def ofMembers (provider : Provider) (members : List (String × Json)) :
    Except Fault (Option Session) :=
  match Json.member? provider.accessTokenKey members with
  | some (.text token) =>
      match Json.member? provider.expiresKey members with
      | none => .ok (some ⟨token, none⟩)
      | some value =>
          match expiry? value with
          | some time => .ok (some ⟨token, some time⟩)
          | none => .error (.expiry value)
  | _ => .ok none

/-- The session that a cookie carries for a provider, if it carries one. -/
def decode (provider : Provider) (raw : String) : Except Fault (Option Session) :=
  match Text.Base64.decode (bareCookie raw) with
  | .error fault => .error (.base64 fault)
  | .ok bytes =>
      match objectOfBytes? bytes with
      | none => .error .notObject
      | some members => ofMembers provider members

def members (provider : Provider) (session : Session) : List (String × Json) :=
  (provider.accessTokenKey, .text session.accessToken) ::
    match session.expiresAt with
    | none => []
    | some time => [(provider.expiresKey, .text (Text.Decimal.ofInt time))]

def encode (provider : Provider) (session : Session) : String :=
  Text.Base64.encode (Json.object (session.members provider)).compact

end Session

end PromptClient
