import PromptClient.Backend

/-! # Scripted servers

A server that gives answers laid down in advance, one to each request, and keeps a
record of the requests. Only requests to its own address arrive.
-/

namespace PromptClient

/-- What a server does on a request. -/
inductive ServerLine
  | respond (status : Nat) (body : List UInt8)
  /-- Ends the connection in the middle of the body. -/
  | cutOff (status : Nat) (body : List UInt8)
  /-- Ends the connection without an answer. -/
  | drop
  /-- Answers in no known language. -/
  | garbage
  /-- Never answers, and the user loses patience. -/
  | silence
deriving DecidableEq, Repr

/-- A request as it arrives. -/
structure ReceivedRequest where
  method : HttpMethod
  target : String
  cookie : Option String
  contentType : Option String
  body : String
deriving DecidableEq, Repr

/-- A server with the answers that it has left. -/
structure Server where
  address : String
  lines : List ServerLine
deriving DecidableEq, Repr

/-- What has become of a call. -/
inductive Exchange
  | answered (reply : Reply)
  | interrupted
deriving Repr

namespace Server

def reaches (server : Server) (request : HttpRequest) : Bool :=
  request.url.scheme = "http" && request.url.address = server.address

/-- A request as it arrives. Blanks at the end of a header are lost on the way. -/
def received (request : HttpRequest) : ReceivedRequest :=
  { method := request.method
    target := request.url.target
    cookie := request.cookie.map fun value =>
      String.ofList (Text.strip (fun char => char = ' ' || char = '\t') value.toList)
    contentType := request.contentType
    body := request.body }

/-- What a client reports that finds no server at the address it was given. Only names
of this machine are known here. -/
def missingServer (host : String) : String :=
  "error trying to connect: " ++
    if host = "localhost" || host.startsWith "127." || host.startsWith "[" then
      "tcp connect error: Connection refused (os error 111)"
    else "dns error: failed to lookup address information: Name or service not known"

/-- What the client makes of a line; none if it waits in vain. -/
def outcome? (request : HttpRequest) : ServerLine → Option (Except String HttpResponse)
  | .respond status body => some (.ok ⟨status, .ok body⟩)
  | .cutOff status _ => some (.ok ⟨status, .error HttpResponse.cutOffDetail⟩)
  | .drop => some (.error (request.fault "connection closed before message completed"))
  | .garbage => some (.error (request.fault "invalid HTTP version parsed"))
  | .silence => none

def exhausted : ServerLine :=
  .respond 500 (Text.Utf8.encode "script exhausted")

/-- The next line and the server after it. -/
def nextLine (server : Server) : ServerLine × Server :=
  match server.lines with
  | [] => (exhausted, server)
  | line :: rest => (line, { server with lines := rest })

/-- Make a call: what becomes of it, what arrives, and the server afterwards. -/
def call (server : Server) (backend : Backend) (request : BackendCall) :
    Exchange × List ReceivedRequest × Server :=
  match backend.request request with
  | .error detail => (.answered (Backend.reply request (.error detail)), [], server)
  | .ok sent =>
      if server.reaches sent then
        let (line, after) := server.nextLine
        match outcome? sent line with
        | some outcome => (.answered (Backend.reply request outcome), [received sent], after)
        | none => (.interrupted, [received sent], after)
      else
        (.answered (Backend.reply request
          (.error (sent.fault (missingServer (sent.url.host.getD ""))))), [], server)

end Server

end PromptClient
