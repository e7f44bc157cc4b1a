import PromptClient.Job
import PromptClient.Url.Parse

/-! # The backend over HTTP

Every call of the backend is one HTTP request, and what it means is read off the
response. Prompts and keys only occur percent-encoded in an address, so neither can
lead anywhere else.
-/

namespace PromptClient

inductive HttpMethod
  | get
  | post
deriving DecidableEq, Repr

structure HttpRequest where
  method : HttpMethod
  url : Url
  cookie : Option String
  contentType : Option String
  body : String
deriving DecidableEq, Repr

/-- A response, as far as it came. -/
structure HttpResponse where
  status : Nat
  /-- The body, or why it could not be read to its end. -/
  body : Except String (List UInt8)

/-- What is reported when a request finds no answer. -/
def HttpRequest.fault (request : HttpRequest) (detail : String) : String :=
  "error sending request for url (" ++ request.url.scheme ++ "://" ++ request.url.address ++
    request.url.target ++ "): " ++ detail

/-- What is reported when a connection ends before the body does. -/
def HttpResponse.cutOffDetail : String :=
  "request or response body error: error reading a body from connection: " ++
    "end of file before message length reached"

def HttpResponse.isSuccess (response : HttpResponse) : Bool :=
  200 ≤ response.status && response.status ≤ 299

def HttpResponse.text (response : HttpResponse) : Except String String :=
  response.body.map Text.Utf8.decodeDocument

structure Backend where
  /-- The address of its root, without a slash at the end. -/
  base : String
deriving DecidableEq, Repr

namespace Backend

def ofAddress (address : String) : Backend :=
  ⟨String.ofList (Text.dropEndWhile (· == '/') address.toList)⟩

def submitUrl (backend : Backend) (prompt : String) : String :=
  backend.base ++ "/api/promptweb?prompt=" ++ Text.Percent.encode prompt

def resultUrl (backend : Backend) (key : String) : String :=
  backend.base ++ "/api/results/" ++ Text.Percent.encode key

/-! ## Requests -/

def urlOf (address : String) : Except String Url :=
  match Url.parse address with
  | .error fault => .error ("builder error: " ++ fault.message)
  | .ok url =>
      if url.host.isSome then .ok url
      else .error ("builder error for url (" ++ address ++ "): URL scheme is not allowed")

def isHeaderChar (char : Char) : Bool :=
  char = '\t' || (char.toNat ≥ 32 && char.toNat ≠ 127)

/-- The cookie header for a session cookie, if there is one. -/
def cookieHeader (cookie : Option String) : Except String (Option String) :=
  match cookie with
  | none => .ok none
  | some value =>
      if value.toList.all isHeaderChar then .ok (some ("session=" ++ value))
      else .error "builder error: failed to parse header value"

/-- The request for a call, or why there is none. -/
def request (backend : Backend) : BackendCall → Except String HttpRequest
  | .create submission => do
      let url ← urlOf (backend.submitUrl submission.prompt)
      let cookie ← cookieHeader submission.cookie
      return ⟨.post, url, cookie, some "application/json", submission.context.body⟩
  | .fetch key => do
      let url ← urlOf (backend.resultUrl key)
      return ⟨.get, url, none, none, ""⟩

/-! ## Responses -/

def createdKey (response : HttpResponse) : Except SubmissionFault String :=
  match response.text with
  | .error detail => .error (.transport detail)
  | .ok body =>
      if response.isSuccess then
        let key := Text.trim body
        if key = "" then .error .emptyKey else .ok key
      else .error (.rejected response.status body)

/-- What a response to a look-up tells. Whatever comes with the status 404 is not
read. -/
def foundResult (key : String) (response : HttpResponse) : Except PollFault Lookup :=
  if response.status = 404 then .ok .notReady
  else
    match response.text with
    | .error detail => .error (.transport detail)
    | .ok body =>
        if response.isSuccess then .ok (.ready body)
        else .error (.failed key response.status body)

/-- The reply to a call: what the response tells, or why there is none. -/
def reply (call : BackendCall) (outcome : Except String HttpResponse) : Reply :=
  match call, outcome with
  | .create _, .error detail => .created (.error (.transport detail))
  | .create _, .ok response => .created (createdKey response)
  | .fetch _, .error detail => .found (.error (.transport detail))
  | .fetch key, .ok response => .found (foundResult key response)

end Backend

end PromptClient
