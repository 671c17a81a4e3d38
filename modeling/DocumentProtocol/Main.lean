import DocumentProtocol.Session.Server
import DocumentProtocol.SocketAddress
import DocumentProtocol.Startup
import Std.Async
import Std.Sync
import Std.Time

/-!
# The command line

The program takes the path of a settings text, or none, and serves the built-in commands on the
address of its settings until it is interrupted and its connections have come to an end. It ends
with exit code 1, after one line on the error output, when it refuses its settings, and with exit
code 1, after a record in its log, when it cannot listen.

This layer only moves bytes and reads clocks. It keeps one `Server` value that all connections
share, and what happens to it is `Server.step` and `Server.converse`. The backend of this server is
the clock that its handshakes show.
-/

namespace DocumentProtocol

namespace CommandLine

open Std.Async

/-- A running server. -/
structure Running where
  config : Config
  began : Nat
  state : IO.Ref (Server Int64)
  shutdown : Std.CancellationToken

/-- The most bytes that are taken off a socket at once. -/
def chunkSize : UInt64 := 65536

def readEnvironment : IO Environment := do
  let mut environment := []
  for name in Config.variableNames do
    if let some value ← IO.getEnv name then environment := environment ++ [(name, value)]
  return environment

def readSource : List String → IO SettingsSource
  | [] => return .defaults
  | path :: _ => do
      match ← (IO.FS.readBinFile path).toBaseIO with
      | .error error => return .unopened error.toString
      | .ok content =>
          match String.fromUTF8? content with
          | some text => return .text text
          | none => return .unread "stream did not contain valid UTF-8"

def writeLog (config : Config) (record : LogRecord) : IO Unit := do
  for record in config.logging.shown [record] do
    IO.println (config.logging.line record)
    (← IO.getStdout).flush

def netAddress : SocketAddress → Std.Net.SocketAddress
  | .v4 octets port =>
      let octet (index : Nat) := UInt8.ofNat (octets.getD index 0)
      .v4 ⟨.ofParts (octet 0) (octet 1) (octet 2) (octet 3), UInt16.ofNat port⟩
  | .v6 groups _ port =>
      let group (index : Nat) := UInt16.ofNat (groups.getD index 0)
      .v6 ⟨.ofParts (group 0) (group 1) (group 2) (group 3) (group 4) (group 5) (group 6) (group 7),
        UInt16.ofNat port⟩

/-- The server after those of some events that can happen, one after the other. -/
def attempt (server : Server Int64) (events : List Server.Event) : Server Int64 :=
  events.foldl (fun server event => (server.step event).getD server) server

/-- The server after it has joined the tasks that have finished, when it can only wait. -/
def goOn (server : Server Int64) : Server Int64 :=
  let wake := if server.stance = .accepting then [.look] else []
  attempt server (wake ++ server.finished.flatMap (fun id => [.look, .join id]) ++ [.look, .look])

def elapsed (running : Running) : IO Nat := return (← IO.monoMsNow) - running.began

def happen (running : Running) (events : List Server.Event) : IO Unit := do
  let now ← elapsed running
  running.state.modify fun server => goOn (attempt { server with now := now } events)

/-- Waits for bytes or the end of a stream; `none` if neither comes in time or before a shutdown. -/
def awaitBytes (running : Running) (client : TCP.Socket.Client) :
    Async (Option (Option ByteArray)) := do
  let arrival := Selectable.case (client.recvSelector chunkSize) fun bytes => return some bytes
  let shutdown := Selectable.case running.shutdown.selector fun _ => return none
  let limit := running.config.server.idleTimeout
  if limit = 0 then Selectable.one #[arrival, shutdown]
  else
    let expiry ← Selector.sleep ⟨limit⟩
    Selectable.one #[arrival, shutdown, Selectable.case expiry fun _ => return none]

/-- Serves a connection until it ends. -/
partial def converse (running : Running) (client : TCP.Socket.Client) (id : Nat) : Async Unit := do
  let arrival ← awaitBytes running client
  let now ← elapsed running
  let clock := Int64.ofInt (← Std.Time.Timestamp.now).toMillisecondsSinceUnixEpoch.val
  let action : Exchange.Action := match arrival with
    | some (some bytes) => .send bytes.toList
    | some none => .finish
    | none => .wait
  let report ← running.state.modifyGet fun server =>
    let shared := { server.shared with backend := clock }
    match Server.converse { server with shared := shared } id now action with
    | some (report, server) => (some report, server)
    | none => (none, server)
  if let some report := report then
    if report.received ≠ [] then client.send ⟨report.received.toArray⟩
    if report.outcome.isSome then client.shutdown else converse running client id

/-- Serves an accepted connection and gives its permit back, however it ends. -/
def serveConnection (running : Running) (client : TCP.Socket.Client) (id : Nat) : Async Unit := do
  try converse running client id catch _ => happen running [.lose id, .advance id]
  happen running [.leave id .ended, .release id]

partial def acceptAll (running : Running) (listener : TCP.Socket.Server) : Async Unit := do
  let socket ← Selectable.one #[
    Selectable.case running.shutdown.selector fun _ => return none,
    Selectable.case listener.acceptSelector fun client => return some client]
  if let some client := socket then
    let id := (← running.state.get).accepted
    happen running [.accept, .tally, .enter]
    if ((← running.state.get).find? id .active).isSome then
      client.noDelay
      background (serveConnection running client id)
    else client.shutdown
    acceptAll running listener

/-- Waits for the connections that are left, and gives up those that take too long. -/
partial def drain (running : Running) : Async Unit := do
  happen running []
  let server ← running.state.get
  unless server.stance = .returned do
    if server.stance = .aborting then
      happen running (server.sockets.flatMap fun socket =>
        [.leave socket.id .aborted, .release socket.id])
    else sleep ⟨10⟩
    drain running

def serve (config : Config) (address : SocketAddress) : IO Unit := do
  let listener ← TCP.Socket.Server.mk
  listener.bind (netAddress address)
  listener.listen 1024
  let registry := Registry.registerDefaults {} (ServerInfo.ofTransport config.transport) id
  let server := goOn (Server.start config registry 0 chunkSize.toNat)
  let running : Running :=
    ⟨config, ← IO.monoMsNow, ← IO.mkRef server, ← Std.CancellationToken.new⟩
  let interruption ← Signal.Waiter.mk .sigint false
  let watch : Async Unit := do
    Selectable.one #[Selectable.case interruption.selector fun _ => return ()]
    happen running [.stop]
    running.shutdown.cancel
  let work : Async Unit := do
    background watch
    acceptAll running listener
    drain running
  work.block

end CommandLine

end DocumentProtocol

open DocumentProtocol

def main (arguments : List String) : IO UInt32 := do
  match Startup.load (← CommandLine.readSource arguments) (← CommandLine.readEnvironment) with
  | .error error =>
      IO.eprintln error.message
      return 1
  | .ok config =>
      CommandLine.writeLog config config.logging.openingRecord
      match SocketAddress.parse? config.server.address with
      | none => return 1
      | some address =>
          match ← (CommandLine.serve config address).toBaseIO with
          | .ok _ => return 0
          | .error _ =>
              CommandLine.writeLog config LoggingConfig.failureRecord
              return 1
