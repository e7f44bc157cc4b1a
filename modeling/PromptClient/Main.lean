import PromptClient.Store.Text
import PromptClient.Terminal.Run
import PromptClient.Wire
import Std.Async

/-! # The program

What the rest leaves to the world: the files of the machine, its clock, its network
and its terminal. Everything is looked up before a run begins, and what the run has
changed is written when it has changed.
-/

namespace PromptClient.Program

open Std.Async

/-! ## Files -/

def pathsTo (path : String) : List String :=
  let names := (FileTree.pathNames path).1
  let start := if path.startsWith "/" then "/" else ""
  (List.range names.length).map fun count =>
    start ++ String.intercalate "/" (names.take (count + 1))

def entryAt (path : String) : IO (Option FileEntry) := do
  try
    let place ← IO.FS.realPath path
    if ← place.isDir then return some .folder
    let bytes ← IO.FS.readBinFile place
    return some (.file bytes.toList)
  catch _ => return none

def survey (files : FileTree) (path : String) : IO FileTree :=
  (pathsTo path).foldlM (fun files place => do
    let names := (FileTree.pathNames place).1
    if (files.entry? names).isSome then return files
    match ← entryAt place with
    | some entry => return files.put names entry
    | none => return files) files

/-- Read the database at a path, if there is one. -/
def readDatabase (files : FileTree) (path : String) : FileTree :=
  match files.readText path, files.resolve path with
  | .ok text, .ok (place, _) =>
      match FieldTable.read? text with
      | some table => files.put place (.database table)
      | none => files
  | _, _ => files

def bytesOf : FileEntry → Option (List UInt8)
  | .folder => none
  | .file bytes => some bytes
  | .database table => some (Text.Utf8.encode table.write)

/-- Bring one entry of the machine up to date; a failure is reported. -/
def saveEntry (names : List String) (entry : FileEntry) (absolute : Bool) : IO Unit := do
  let path := (if absolute then "/" else "") ++ String.intercalate "/" names
  try
    match bytesOf entry with
    | none => IO.FS.createDirAll path
    | some bytes => IO.FS.writeBinFile path ⟨bytes.toArray⟩
  catch fault => IO.eprintln ("Failed to write " ++ path ++ ": " ++ toString fault)

/-- Bring the machine up to date with the files after a change, folders first. -/
def save (before after : FileTree) (relative : List (List String)) : IO Unit := do
  let changed := after.entries.filter fun (names, entry) =>
    before.entry? names ≠ some entry
  let inOrder := changed.mergeSort fun left right => left.1.length ≤ right.1.length
  for (names, entry) in inOrder do
    saveEntry names entry (!relative.contains names)

/-! ## Terminal -/

def printLine : Line → IO Unit
  | .out text => IO.println text
  | .err text => IO.eprintln text

def publish (relative : List (List String)) (before : FileTree) (turn : Turn) : IO Unit := do
  save before turn.workplace.files relative
  turn.lines.forM printLine

/-! ## Network -/

inductive Heard
  | bytes (data : ByteArray)
  | closed
  | timedOut
  | interrupted

def milliseconds (length : Duration) : Std.Time.Millisecond.Offset :=
  .ofNat length.ceilMilliseconds

/-- Wait for the next bytes, for no longer than the limit. -/
def listen (client : TCP.Socket.Client) (limit : Duration) (stop : Std.CancellationToken) :
    Async Heard := do
  let patience ← Selector.sleep (milliseconds limit)
  Selectable.one #[
    .case (client.recvSelector 65536) fun
      | some data => return .bytes data
      | none => return .closed,
    .case patience fun _ => return .timedOut,
    .case stop.selector fun _ => return .interrupted]

/-- Collect what comes until the connection is closed. -/
partial def collect (client : TCP.Socket.Client) (limit : Duration)
    (stop : Std.CancellationToken) (got : ByteArray) : Async (Except Heard ByteArray) := do
  match ← listen client limit stop with
  | .bytes data => collect client limit stop (got ++ data)
  | .closed => return .ok got
  | other => return .error other

def addresses (host : String) (port : Nat) : Async (Array Std.Net.SocketAddress) := do
  let found ← DNS.getAddrInfo host (Text.Decimal.ofNat port)
  return found.map fun
    | .v4 address => .v4 ⟨address, .ofNat port⟩
    | .v6 address => .v6 ⟨address, .ofNat port⟩

/-- A connection to the first address that takes one. -/
def connect (choices : List Std.Net.SocketAddress) : Async (Option TCP.Socket.Client) := do
  for choice in choices do
    try
      let client ← TCP.Socket.Client.mk
      client.connect choice
      return some client
    catch _ => pure ()
  return none

inductive Exchange
  | over (outcome : Except String HttpResponse)
  | interrupted

def send (limit : Duration) (stop : Std.CancellationToken) (request : HttpRequest) :
    Async Exchange := do
  let failed := fun (detail : String) => Exchange.over (.error (request.fault detail))
  if request.url.scheme ≠ "http" then
    return failed "error trying to connect: invalid URL, scheme is not http"
  try
    let choices ← addresses (request.url.host.getD "") (request.url.port.getD 80)
    match ← connect choices.toList with
    | none => return failed "error trying to connect: tcp connect error"
    | some client =>
        client.send ⟨(Wire.requestBytes request).toArray⟩
        match ← collect client limit stop .empty with
        | .ok got => return .over (Wire.response request got.toList)
        | .error .interrupted => return .interrupted
        | .error _ => return failed "operation timed out"
  catch fault => return failed ("error trying to connect: " ++ toString fault)

/-- Wait for the end of a pause; false if the user does not want to. -/
def rest (length : Duration) (stop : Std.CancellationToken) : Async Bool := do
  let patience ← Selector.sleep (milliseconds length)
  Selectable.one #[
    .case patience fun _ => return true,
    .case stop.selector fun _ => return false]

/-- The reply that an attempt waits for; none if the user does not want to wait. -/
def reply? (place : Workplace) (stop : Std.CancellationToken) (attempt : Attempt) :
    Async (Option Reply) := do
  match attempt with
  | .working errand =>
      match errand.event? place.desk.policy with
      | some (.call call) =>
          match place.backend.request call with
          | .error detail => return some (Backend.reply call (.error detail))
          | .ok request =>
              match ← send place.config.requestLimit stop request with
              | .over outcome => return some (Backend.reply call outcome)
              | .interrupted => return none
      | some (.pause length) =>
          if ← rest length stop then return some .rested else return none
      | none => return some .rested
  | _ => return some .rested

/-! ## Runs -/

def stopOnInterrupt : IO Std.CancellationToken := do
  let stop ← Std.CancellationToken.new
  let signal ← Signal.Waiter.mk .sigint false
  let interrupted ← signal.wait
  let _ ← AsyncTask.mapIO (fun _ => stop.cancel) interrupted
  return stop

partial def serve (relative : List (List String)) (stop : Std.CancellationToken)
    (before : FileTree) (turn : Turn) : IO ExitStatus := do
  publish relative before turn
  match turn.stand with
  | .ended status => return status
  | .waiting attempt =>
      let next := match ← (reply? turn.workplace stop attempt).block with
        | some reply => turn.workplace.proceed attempt reply
        | none => turn.workplace.interrupt attempt
      serve relative stop turn.workplace.files next

def environment : IO Environment := do
  let names :=
    ["HOME", "XDG_CONFIG_HOME", "XDG_DATA_HOME", "PROMPTWEB_CONFIG", "PROMPTWEB_BASE_URL"]
  let known ← names.filterMapM fun name => do
    return (← IO.getEnv name).map fun value => (name, value)
  return ⟨known, none⟩

def orderPaths : Command → List String
  | .submit order => order.credentialFile.toList
  | _ => []

/-- The world as an invocation finds it, and the names of what lies in the present
folder. -/
def worldFor (environment : Environment) (invocation : Invocation) :
    IO (World × List (List String)) := do
  let clock := (← Std.Time.Timestamp.now).toSecondsSinceUnixEpoch.val
  let configPath := invocation.configPath.getD (Config.defaultPath environment)
  let configured ← survey .empty configPath
  let world : World := ⟨environment, configured, clock, false⟩
  match world.config invocation with
  | .error _ => return (world, [])
  | .ok config =>
      let database := FileStorage.databaseIn (config.dataFolderIn environment)
      let paths := [config.sessionPath environment, config.logFolder environment, database] ++
        orderPaths invocation.command ++ invocation.resultPath.toList
      let files ← paths.foldlM survey configured
      let relative := (paths.filter fun path => !path.startsWith "/").flatMap fun path =>
        (pathsTo path).map fun place => (FileTree.pathNames place).1
      return ({ world with files := readDatabase files database }, relative)

/-- The world for arguments that lead to no command. -/
def emptyWorld (environment : Environment) : World :=
  ⟨environment, .empty, 0, false⟩

def run (arguments : List String) : IO ExitStatus := do
  let environment ← environment
  let (world, relative) ← match Arguments.request arguments with
    | .run invocation => worldFor environment invocation
    | _ => pure (emptyWorld environment, [])
  match world.start arguments with
  | .error (files, lines, status) =>
      save world.files files relative
      lines.forM printLine
      return status
  | .ok (place, command) =>
      serve relative (← stopOnInterrupt) world.files (place.perform command)

end PromptClient.Program

def main (arguments : List String) : IO UInt32 := do
  return .ofNat (← PromptClient.Program.run arguments).code
