import PromptClient.Backend
import PromptClient.Json.Reader

/-! # Messages on the wire

How a request is put into bytes, and how a response is read from all the bytes that
came until the connection was closed. One connection serves one request.
-/

namespace PromptClient.Wire

/-! ## Requests -/

def fieldLine (name : String) (value : Option String) : String :=
  match value with
  | some value => name ++ ": " ++ value ++ "\r\n"
  | none => ""

def methodName : HttpMethod → String
  | .get => "GET"
  | .post => "POST"

def requestBytes (request : HttpRequest) : List UInt8 :=
  let body := Text.Utf8.encode request.body
  let length := match request.method with
    | .get => none
    | .post => some (Text.Decimal.ofNat body.length)
  let head :=
    methodName request.method ++ " " ++ request.url.target ++ " HTTP/1.1\r\n" ++
      fieldLine "content-type" request.contentType ++ fieldLine "cookie" request.cookie ++
      fieldLine "accept" (some "*/*") ++ fieldLine "host" (some request.url.address) ++
      fieldLine "content-length" length ++ fieldLine "connection" (some "close") ++ "\r\n"
  Text.Utf8.encode head ++ body

/-! ## Responses -/

inductive Fault
  | ended
  | badVersion
  | badStatus
deriving DecidableEq, Repr

def Fault.message : Fault → String
  | .ended => "connection closed before message completed"
  | .badVersion => "invalid HTTP version parsed"
  | .badStatus => "invalid HTTP status-code parsed"

/-- A line without the carriage return at its end, from its characters backwards. -/
def lineOf : List Char → List Char
  | '\r' :: rest => rest.reverse
  | chars => chars.reverse

/-- The lines up to the first empty one, and the bytes after it. The lines and the
characters read so far are given backwards. -/
def headLines (done : List (List Char)) (line : List Char) :
    List UInt8 → Option (List (List Char) × List UInt8)
  | [] => none
  | byte :: rest =>
      if byte = 10 then
        match lineOf line with
        | [] => some (done.reverse, rest)
        | text => headLines (text :: done) [] rest
      else headLines done (Char.ofNat byte.toNat :: line) rest

def statusOf (line : List Char) : Except Fault Nat :=
  let (version, rest) := line.span (· ≠ ' ')
  if version = "HTTP/1.1".toList || version = "HTTP/1.0".toList then
    let digits := (rest.drop 1).takeWhile (· ≠ ' ')
    match Text.Decimal.natural? digits with
    | some status => if digits.length = 3 then .ok status else .error .badStatus
    | none => .error .badStatus
  else .error .badVersion

def fieldValue? (name : String) (lines : List (List Char)) : Option String :=
  lines.findSome? fun line =>
    let (key, rest) := line.span (· ≠ ':')
    if (key.map Char.toLower) = name.toList then
      some (Text.trim (String.ofList ((rest.drop 1).map Char.toLower)))
    else none

/-- The bytes of a line, and those after it. -/
def splitLine : List UInt8 → Option (List UInt8 × List UInt8)
  | [] => none
  | byte :: rest =>
      if byte = 10 then some ([], rest)
      else (splitLine rest).map fun (line, after) => (byte :: line, after)

/-- The number that hexadecimal digits stand for, up to the first other byte. -/
def hexSize (size : Nat) : List UInt8 → Nat
  | [] => size
  | byte :: rest =>
      match Json.hexValue? (Char.ofNat byte.toNat) with
      | some digit => hexSize (size * 16 + digit) rest
      | none => size

/-- The body in a chunked message. Every chunk has a line with its size in front of
it, and an empty one comes last. -/
def chunked : (chunks : Nat) → List UInt8 → Option (List UInt8)
  | 0, _ => none
  | chunks + 1, bytes => do
      let (line, rest) ← splitLine bytes
      let size := hexSize 0 line
      if size = 0 then return []
      if rest.length < size then none
      let (_, after) ← splitLine (rest.drop size)
      let more ← chunked chunks after
      return rest.take size ++ more

def bodyOf (lines : List (List Char)) (bytes : List UInt8) : Except String (List UInt8) :=
  let body :=
    if fieldValue? "transfer-encoding" lines = some "chunked" then chunked bytes.length bytes
    else match (fieldValue? "content-length" lines).bind fun text =>
        Text.Decimal.natural? text.toList with
      | some length => if bytes.length < length then none else some (bytes.take length)
      | none => some bytes
  match body with
  | some bytes => .ok bytes
  | none => .error HttpResponse.cutOffDetail

/-- The response in the bytes of a connection. Interim responses, of which there may
be so many, are passed over. -/
def responseIn : (interim : Nat) → List UInt8 → Except Fault HttpResponse
  | 0, _ => .error .ended
  | interim + 1, bytes =>
      match headLines [] [] bytes with
      | none => .error (if bytes.isEmpty || bytes.take 5 = Text.Utf8.encode "HTTP/" then .ended
          else .badVersion)
      | some (lines, rest) => do
          let status ← statusOf (lines.head?.getD [])
          if status < 200 then responseIn interim rest
          else return ⟨status, bodyOf (lines.drop 1) rest⟩

/-- The response in the bytes of a connection, or what is reported instead. -/
def response (request : HttpRequest) (bytes : List UInt8) : Except String HttpResponse :=
  match responseIn 8 bytes with
  | .ok response => .ok response
  | .error fault => .error (request.fault fault.message)

end PromptClient.Wire
