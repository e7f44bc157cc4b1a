import PromptClient.Url.Host
import PromptClient.Url.Path

/-! # URLs

Absolute URLs as browsers read them: blanks around and line breaks inside do not
count, letter case of scheme and host does not matter, and for the schemes of the
web a backslash is a slash. The fragment is left out.
-/

namespace PromptClient

structure Url where
  scheme : String
  host : Option String
  /-- A port other than the scheme's own. -/
  port : Option Nat
  path : String
  query : Option String
deriving DecidableEq, Repr

namespace Url

/-- The port that a scheme of the web implies. -/
def defaultPort? (scheme : String) : Option Nat :=
  if scheme = "http" || scheme = "ws" then some 80
  else if scheme = "https" || scheme = "wss" then some 443
  else if scheme = "ftp" then some 21
  else none

/-- What stands in a text without what does not count. -/
def significant (text : String) : List Char :=
  (Text.strip (fun char => char.toNat ≤ 32) text.toList).filter fun char =>
    char ≠ '\t' && char ≠ '\n' && char ≠ '\r'

/-- The characters of a scheme after its first letter, and what follows the colon. -/
def schemeRest? : List Char → Option (List Char × List Char)
  | [] => none
  | ':' :: rest => some ([], rest)
  | char :: rest =>
      if char.isAlphanum || char = '+' || char = '-' || char = '.' then
        (schemeRest? rest).map fun (scheme, after) => (char.toLower :: scheme, after)
      else none

def scheme? (text : List Char) : Option (String × List Char) :=
  match text with
  | first :: _ =>
      if first.isAlpha then
        (schemeRest? text).map fun (scheme, rest) => (String.ofList scheme, rest)
      else none
  | [] => none

def endsAuthority (special : Bool) (char : Char) : Bool :=
  char = '/' || char = '?' || char = '#' || (special && char = '\\')

/-- What stands after the last `@` of an authority, and whether there is one with
something before it. -/
def afterUser (authority : List Char) : List Char × Bool :=
  let back := authority.reverse.takeWhile (· ≠ '@')
  let host := back.reverse
  (host, host.length + 1 < authority.length)

/-- The host and the text after its colon. A colon in brackets belongs to the host. -/
def splitPort (inBrackets : Bool) : List Char → List Char × Option (List Char)
  | [] => ([], none)
  | char :: rest =>
      if char = ':' && !inBrackets then ([], some rest)
      else
        let inside := if char = '[' then true else if char = ']' then false else inBrackets
        let (host, port) := splitPort inside rest
        (char :: host, port)

/-- A port; none where nothing is written. -/
def readPort (text : List Char) : Except Fault (Option Nat) :=
  if text.isEmpty then .ok none
  else
    match Text.Decimal.natural? text with
    | some port => if port ≤ 65535 then .ok (some port) else .error .badPort
    | none => .error .badPort

def hostAndPort (scheme : String) (special : Bool) (authority : List Char) :
    Except Fault (Option String × Option Nat) := do
  let (address, hasUser) := afterUser authority
  let (name, afterColon) := splitPort false address
  if name.isEmpty && (hasUser || afterColon.isSome) then throw .emptyHost
  let host ← if special then specialHost name else otherHost name
  let port ← readPort (afterColon.getD [])
  return (if host = "" then none else some host,
    if port = defaultPort? scheme then none else port)

/-- The parts before the first `?`, and after it. The fragment is dropped. -/
def splitQuery (text : List Char) : List Char × Option (List Char) :=
  let shown := text.takeWhile (· ≠ '#')
  let path := shown.takeWhile (· ≠ '?')
  (path, if path.length < shown.length then some (shown.drop (path.length + 1)) else none)

/-- A URL from its parts after the authority. -/
def finish (scheme : String) (special : Bool) (host : Option String) (port : Option Nat)
    (rest : List Char) : Url :=
  let (path, query) := splitQuery rest
  { scheme := scheme
    host := host
    port := port
    path := String.ofList
      (if special then webPath path else encodeWhere isControlOrWide path)
    query := query.map fun text => String.ofList (encodeWhere isEncodedInQuery text) }

def withAuthority (scheme : String) (special : Bool) (text : List Char) : Except Fault Url :=
  let authority := text.takeWhile (!endsAuthority special ·)
  (hostAndPort scheme special authority).map fun (host, port) =>
    finish scheme special host port (text.drop authority.length)

def parse (text : String) : Except Fault Url :=
  match scheme? (significant text) with
  | none => .error .relative
  | some (scheme, rest) =>
      if (defaultPort? scheme).isSome then withAuthority scheme true (rest.dropWhile isSlash)
      else if scheme = "file" then .ok (finish scheme true none none rest)
      else if rest.take 2 = ['/', '/'] then withAuthority scheme false (rest.drop 2)
      else .ok (finish scheme false none none rest)

/-- Host and port, the port left out where the scheme implies it. -/
def address (url : Url) : String :=
  url.host.getD "" ++ match url.port with
    | some port => ":" ++ Text.Decimal.ofNat port
    | none => ""

def target (url : Url) : String :=
  url.path ++ match url.query with
    | none => ""
    | some query => "?" ++ query

def isRelative (text : String) : Bool :=
  match parse text with
  | .error .relative => true
  | _ => false

end Url

end PromptClient
