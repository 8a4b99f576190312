import ChatRelay.CommandLine.Request
import ChatRelay.Http.Wire
import ChatRelay.Server.Answer
import ChatRelay.Server.Launch
import ChatRelay.WebSocket.Codec
import Std.Async
import Std.Sync.CancellationToken
import Std.Sync.Mutex

/-! # The program

Reads the arguments, and prints what they ask for or runs the server. The server takes connections,
each in a thread of its own, and hands what they send to the library one after the other; what the
library wants sent goes out at once. It runs until it is told to stop. Nothing here connects to
Redis: a server that is set up for it serves its own clients as one whose Redis is silent.
-/

namespace ChatRelay

open Std.Async

/-! ## Settings -/

/-- What the operating system says about a file. -/
def readFile (path : String) : IO (Except ReadFault Bytes) := do
  try
    return .ok (← IO.FS.readBinFile path).toList
  catch error =>
    return .error <| match error with
      | .noFileOrDirectory .. => .missing
      | .inappropriateType .. => .isDirectory
      | _ => .notDirectory

/-- The environment variables that are settings. -/
def variableNames : List String :=
  ["HOST", "PORT", "DEFAULT_ROOM", "OUTBOUND_CAPACITY", "REDIS_URL", "REDIS_ENABLED", "LOG_LEVEL",
    "LOG_FORMAT"].map ("ROOMCAST_" ++ ·)

/-- The environment as far as it has settings. -/
def readEnvironment : IO Environment := do
  let values ← variableNames.filterMapM fun name => do
    return (← IO.getEnv name).map fun value => (name, Utf8.ofString value)
  return fun name => values.lookup name

/-- The directory of the user's settings. -/
def settingsHome : IO (Option String) := do
  match ← IO.getEnv "XDG_CONFIG_HOME" with
  | some path => if path.startsWith "/" then return some path
  | none => pure ()
  return (← IO.getEnv "HOME").map (· ++ "/.config")

/-- The settings that a server is to be run with. -/
def readSettings (options : ServeOptions) : IO (Except LaunchError Settings) := do
  let home ← settingsHome
  let contents ← (options.config.toList ++ Settings.places home).mapM fun path => do
    return (path, ← readFile path)
  let files : Files := fun path => (contents.lookup path).getD (.error .missing)
  return Settings.launchable (options.settings (← readEnvironment) files home)

/-! ## The log -/

/-- Write a line to the log. -/
def log (logging : LoggingSettings) (message : String) : IO Unit := do
  let line := if logging.isJson then
      Utf8.toString? (Json.print
        (.object [("level", .string "INFO"), ("message", .string message)]))
    else some ("INFO " ++ message)
  IO.println (line.getD message)
  (← IO.getStdout).flush

/-! ## Connections -/

/-- A server with the sockets of its connections. -/
structure Live where
  server : Server
  /-- When the server was started, in milliseconds. -/
  started : Nat
  sockets : List (ClientId × TCP.Socket.Client) := []

/-- Send bytes without waiting for their arrival. -/
def send (socket : TCP.Socket.Client) (data : Bytes) : IO Unit := do
  discard <| (socket.send (ByteArray.mk data.toArray)).toIO

/-- Bytes that have come, or nothing at the end of the connection or of the program. -/
def receive? (stop : Std.CancellationToken) (socket : TCP.Socket.Client) : IO (Option Bytes) := do
  try
    Async.block <| Selectable.one #[
      .case (socket.recvSelector 65536) fun data => return data.map ByteArray.toList,
      .case stop.selector fun _ => return none]
  catch _ => return none

/-- End a connection. -/
def close (socket : TCP.Socket.Client) : IO Unit := do
  discard <| socket.shutdown.toIO

/-- Send each item to the socket of its client. -/
def deliver (sockets : List (ClientId × TCP.Socket.Client)) (sent : Sent) : IO Unit := do
  for (client, item) in sent do
    match sockets.lookup client with
    | none => pure ()
    | some socket =>
      send socket (WebSocket.encodeOutgoing item)
      if item = .ended then close socket

/-- Change the server and send what that leads to. -/
def change (live : Std.Mutex Live) (step : Server → Sent × Server) : IO Unit := do
  live.atomically do
    let state ← get
    let (sent, server) := step state.server
    set { state with server := server.loseOutbox }
    deliver state.sockets sent

/-- The time now. -/
def now : IO Timestamp := do
  let nanos := (← Std.Time.Timestamp.now).toNanosecondsSinceUnixEpoch.val
  return .ofUnix (nanos / 1000000000) (nanos % 1000000000).toNat

/-- Read what a client sends until its connection is over. -/
partial def runSession (stop : Std.CancellationToken) (live : Std.Mutex Live)
    (socket : TCP.Socket.Client) (client : ClientId) (inbox : WebSocket.Inbox) : IO Unit := do
  match ← receive? stop socket with
  | none =>
    change live (·.receive client (.ofUnix 0 0) .lost)
    live.atomically do
      modify fun state => { state with sockets := state.sockets.filter (·.1 != client) }
  | some data =>
    let (items, inbox) := inbox.feed data
    for item in items do
      let time ← now
      change live (·.receive client time item)
    runSession stop live socket client inbox

/-- Open a connection's session. -/
def openSession (live : Std.Mutex Live) (socket : TCP.Socket.Client) (room : String) :
    IO ClientId := do
  live.atomically do
    let state ← get
    let (client, sent, server) := state.server.connect room
    let sockets := (client, socket) :: state.sockets
    set { state with server := server.loseOutbox, sockets }
    deliver sockets sent
    return client

/-- An identifier that is new. -/
def freshId : IO InstanceId := do
  return (InstanceId.ofRandom? (← IO.getRandomBytes 16).toList).getD .zero

/-- Let the server answer a request. -/
def answer (live : Std.Mutex Live) (request : Http.Request) : IO Answer := do
  let requestId := (← freshId).text
  let time ← IO.monoMsNow
  live.atomically do
    let state ← get
    let uptime := (time - state.started) / 1000
    let (answer, server) := state.server.answer ⟨requestId, uptime, .zero false⟩ request
    set { state with server }
    return answer

/-- Answer the requests of a connection, the bytes of which have come so far. -/
partial def runRequests (stop : Std.CancellationToken) (live : Std.Mutex Live)
    (socket : TCP.Socket.Client) (data : Bytes) : IO Unit := do
  match Http.Wire.splitHead? data with
  | none =>
    match ← receive? stop socket with
    | some more =>
      if data.length ≤ Http.Wire.headLimit then runRequests stop live socket (data ++ more)
      else close socket
    | none => close socket
  | some (head, rest) =>
    match Http.Wire.request? head with
    | none => send socket (Http.Wire.response (.empty 400)); close socket
    | some request =>
      match ← answer live request with
      | .respond response =>
        send socket (Http.Wire.response response)
        if Http.Wire.isLast request then close socket
        else runRequests stop live socket (rest.drop (Http.Wire.bodyLength request))
      | .upgrade room =>
        let key := (request.header? "sec-websocket-key").getD ""
        send socket (Http.Wire.upgrade (WebSocket.acceptToken key))
        let client ← openSession live socket room
        runSession stop live socket client {}

/-! ## The server -/

/-- The address to listen on. -/
def listenAddress? (server : ServerSettings) : Option Std.Net.SocketAddress :=
  let host := if Http.lowerCase server.host == "localhost" then "127.0.0.1"
    else match Text.looseAddress? server.host.toList with
      | some octets => ".".intercalate (octets.map toString)
      | none => server.host
  let port := UInt16.ofNat server.port
  match Std.Net.IPv4Addr.ofString host with
  | some address => some (.v4 ⟨address, port⟩)
  | none =>
    (Std.Net.IPv6Addr.ofString (host.replace "[" "" |>.replace "]" "")).map fun address =>
      .v6 ⟨address, port⟩

/-- Take connections until the program is told to stop. -/
partial def acceptAll (stop : Std.CancellationToken) (live : Std.Mutex Live)
    (listener : TCP.Socket.Server) : IO Unit := do
  match ← Async.block <| Selectable.one #[
      .case listener.acceptSelector fun socket => return some socket,
      .case stop.selector fun _ => return none] with
  | none => return
  | some socket =>
    discard <| IO.asTask (runRequests stop live socket []) Task.Priority.dedicated
    acceptAll stop live listener

/-- Let a signal from outside stop the program. -/
def stopOn (stop : Std.CancellationToken) (signal : Signal) : IO Unit := do
  let fired ← (← Signal.Waiter.mk signal false).wait
  discard <| IO.mapTask (fun _ => stop.cancel) fired

/-- Run a server until it is told to stop. -/
def runServer (settings : Settings) : IO UInt32 := do
  let some address := listenAddress? settings.server
    | IO.eprintln (LaunchError.host settings.server.host).message
      return 1
  let id ← freshId
  log settings.logging s!"Starting Roomcast v{serverVersion} as {id.text}"
  let listener ← TCP.Socket.Server.mk
  listener.bind address
  listener.listen 128
  log settings.logging s!"Listening on {toString (← listener.getSockName)}"
  let live ← Std.Mutex.new { server := settings.launch id, started := ← IO.monoMsNow : Live }
  let stop ← Std.CancellationToken.new
  stopOn stop .sigterm
  stopOn stop .sigint
  acceptAll stop live listener
  log settings.logging "Roomcast stopped"
  return 0

end ChatRelay

open ChatRelay in
/-- Do what the arguments ask for. -/
def main (args : List String) : IO UInt32 := do
  match CliRequest.ofArgs args with
  | .error misuse =>
    IO.eprintln ("error: " ++ misuse.message)
    return 2
  | .ok (.serve options) =>
    match ← readSettings options with
    | .error error =>
      IO.eprintln ("Error: " ++ error.message)
      return error.code.toUInt32
    | .ok settings => runServer settings
  | .ok request =>
    IO.print (request.text?.getD "")
    return 0
