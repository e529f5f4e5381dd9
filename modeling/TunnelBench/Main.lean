import Std.Async.Signal
import Std.Async.TCP
import Std.Async.Timer
import TunnelBench.CommandLine
import TunnelBench.FileTree.Editing
import TunnelBench.Server.Admission
import TunnelBench.Server.Connection

/-!
# The program

Starts the server that the arguments ask for and serves clients over TCP until it is
interrupted. A file server takes its files from the standard input, which has the path
of a file on each line; these are all the files that it sees.

All decisions are those of `CommandLine.start`, `Admission.admits` and
`Connection.run`. This module reads, waits and prints.
-/
namespace TunnelBench.Program

open Std.Async

/-- The part of the environment that matters to logging. -/
def logEnvironment : IO LogEnvironment := do
  let debug ← IO.getEnv "TUNFIXTURE_DEBUG"
  let filter ← IO.getEnv "RUST_LOG"
  return { debug := debug.map Bytes.ofString, filter := filter.map Bytes.ofString }

/-- The tree without files, in which the program works in its own directory. -/
def emptyTree : IO FileTree := do
  let directory := (← IO.getEnv "PWD").getD "/"
  let tree := FileTree.makeDirectory (.ofString directory) {}
  return { tree with current := Path.names (.ofString directory) }

/-- Adds the files whose paths stand on the lines of a stream. -/
partial def addFiles (input : IO.FS.Stream) (tree : FileTree) : IO FileTree := do
  let line ← input.getLine
  if line.isEmpty then return tree
  let path := String.ofList (line.toList.takeWhile (· ≠ '\n'))
  let content ← IO.FS.readBinFile path
  addFiles input (tree.write (.ofString path) content.toList)

/-- The files that the arguments need. -/
def filesFor (arguments : List String) : IO FileTree := do
  match CommandLine.Command.ofArguments arguments with
  | .serve _ _ => addFiles (← IO.getStdin) (← emptyTree)
  | _ => emptyTree

/-- Shows an event with its values. -/
def showEvent (event : Event) : IO Unit :=
  let fields := event.fields.map fun (name, value) => " " ++ name ++ "=" ++ value
  IO.println (event.severity.label ++ " " ++ event.message ++ String.join fields)

/-- What a client does next. -/
inductive Arrival where
  | bytes (bytes : Bytes)
  | ending
  /-- Nothing in time. -/
  | silence

/-- The most bytes that are received at once. -/
def receiveSize : UInt64 := 65536

/-- Waits some milliseconds for a client. -/
def receive (client : TCP.Socket.Client) (patience : Nat) : Async Arrival := do
  let silence ← Selector.sleep (Std.Time.Millisecond.Offset.ofNat patience)
  Selectable.one #[
    .case (client.recvSelector receiveSize) fun received =>
      match received with
      | some data => return .bytes data.toList
      | none => return .ending,
    .case silence fun _ => return .silence]

/-- Sends bytes, if there are any. -/
def send (client : TCP.Socket.Client) (bytes : Bytes) : Async Unit := do
  unless bytes.isEmpty do
    client.send ⟨bytes.toArray⟩

/-- Whether the head of a request is still to come. -/
def awaitsHead (config : ServerConfig) (source : Source) : Bool :=
  match (Connection.introduce config.protocol source).1 with
  | .ok _ => false
  | .error _ => true

/-- A wait for a client. -/
structure Wait where
  /-- Whether it is a wait for the head of the request. -/
  forHead : Bool
  /-- When the wait began, in milliseconds. -/
  since : Nat

/-- Serves a client that has sent some pieces and got some bytes; the answer holds the events
to log. -/
partial def serveClient (config : ServerConfig) (handler : Handler) (client : TCP.Socket.Client)
    (wait : Wait) (pieces : Source) (sent : Nat) : Async (List Event) := do
  let unended := Connection.unended pieces
  let served := Connection.run config handler unended
  send client (served.sent.drop sent)
  if !served.timedOut then
    client.shutdown
    return served.events
  let now ← IO.monoMsNow
  let forHead := awaitsHead config unended
  let wait := if wait.forHead && !forHead then ⟨false, now⟩ else wait
  let limit := if forHead then config.readTimeout else config.handlerTimeout
  match ← receive client (wait.since + limit - now) with
  | .bytes bytes =>
    serveClient config handler client wait (pieces ++ [.data bytes]) served.sent.length
  | .ending =>
    let ended := Connection.run config handler pieces
    send client (ended.sent.drop served.sent.length)
    client.shutdown
    return ended.events
  | .silence => return served.events

/-- Serves a client from its first byte on and shows what is worth it. -/
def serveFromStart (config : ServerConfig) (handler : Handler) (client : TCP.Socket.Client) :
    Async Unit := do
  let events ←
    try
      let now ← IO.monoMsNow
      serveClient config handler client ⟨true, now⟩ [] 0
    catch error => pure [.connectionFailed (.io (.stream (.broken (toString error))))]
  events.forM fun event => showEvent event

/-- Accepts clients until the program is interrupted. -/
partial def acceptClients (config : ServerConfig) (handler : Handler)
    (server : TCP.Socket.Server) (interrupt : Signal.Waiter) (active : IO.Ref Nat) :
    Async Unit := do
  let next : Except String (Option TCP.Socket.Client) ←
    try
      .ok <$> Selectable.one #[
        .case server.acceptSelector fun client => return some client,
        .case interrupt.selector fun _ => return none]
    catch error => pure (.error (toString error))
  match next with
  | .error text =>
    showEvent (.acceptFailed (.stream (.broken text)))
    acceptClients config handler server interrupt active
  | .ok none => return
  | .ok (some client) =>
    let current ← active.get
    if Admission.admits config.maxConnections current then
      active.modify (· + 1)
      background do
        serveFromStart config handler client
        active.modify (· - 1)
    else
      showEvent (.connectionRejected current config.maxConnections)
    acceptClients config handler server interrupt active

/-- The number of clients that may wait to be accepted. -/
def backlog : UInt32 := 1024

/-- Listens at the address of a configuration. -/
def listen (config : ServerConfig) : IO (Except Failure TCP.Socket.Server) := do
  try
    let server ← TCP.Socket.Server.mk
    server.bind (.v4 ⟨.ofParts 127 0 0 1, config.address.port.toUInt16⟩)
    server.listen backlog
    return .ok server
  catch error =>
    match error with
    | .resourceBusy .. => return .error (.config (.bind config.address.text .addressInUse))
    | other =>
      let text := "Failed to bind " ++ config.address.text ++ ": " ++ toString other
      return .error (.config (.other text))

/-- Shows the causes of a failed start. -/
def showCauses (causes : List String) : IO Unit := do
  IO.eprintln "Error:"
  causes.zipIdx.forM fun (cause, index) =>
    IO.eprintln ("   " ++ toString index ++ ": " ++ cause)

/-- Runs a server until the program is interrupted; the answer is the exit code. -/
def run (kind : String) (config : ServerConfig) (handler : Handler) : IO UInt32 := do
  match ← listen config with
  | .error failure =>
    showCauses (("Failed to run " ++ kind ++ " server") :: failure.message :: failure.causes)
    return 1
  | .ok server =>
    let interrupt ← Signal.Waiter.mk .sigint false
    let active ← IO.mkRef 0
    (acceptClients config handler server interrupt active).block
    return 0

/-- Starts what the arguments ask for and runs it; the answer is the exit code. -/
def start (arguments : List String) : IO UInt32 := do
  match CommandLine.start (← logEnvironment) (← filesFor arguments) arguments with
  | .usage =>
    IO.eprint CommandLine.usage
    return 1
  | .failed causes =>
    showCauses causes
    return 1
  | .echo config =>
    IO.println ("Starting echo server address=" ++ config.address.text ++ " protocol=" ++
      config.protocol.tag)
    run "echo" config Dispatcher.echo.toHandler
  | .files library config =>
    IO.println ("Starting file server address=" ++ config.address.text ++ " root=" ++
      Utf8.decodeLossy library.root ++ " resources=" ++ toString library.size)
    run "file" config (.files library)

end TunnelBench.Program

/-- Runs the program with its arguments. -/
def main (arguments : List String) : IO UInt32 := TunnelBench.Program.start arguments
