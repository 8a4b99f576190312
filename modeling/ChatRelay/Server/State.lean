import ChatRelay.Chat.Sink
import ChatRelay.Config.Settings
import ChatRelay.Presence.Reading
import ChatRelay.Server.Connection

/-! # The server

A server is an instance with its connections, the store for chat messages, and what it shows to its
operators. Every operation here goes on until nothing is left to do: the hub has processed what was
submitted, and then all that waits for a connection is sent. An operation gives the new state and
what was sent to whom, in order.

A connection ends when its client ends it, when it sends an unacceptable frame or a ping or pong
that is too long, or when the hub lets go of its queue; then its client leaves the hub.
-/

namespace ChatRelay

/-- A server. -/
structure Server where
  node : Node
  settings : ServerSettings := {}
  queues : Queues := ∅
  /-- The store for chat messages, if it is one that remembers. -/
  sink : Option Sink := none
  /-- Counters of the bridge, if there is one. -/
  bridge : Option BridgeStatus := none
  /-- Why presence cannot be read, if it cannot. -/
  presenceFault : Option PresenceError := none
  /-- The open connections, oldest first. -/
  connections : List Connection := []
  /-- The next identifier of a client and its queue. -/
  fresh : Nat := 0

/-- What was sent, and to which client. -/
abbrev Sent := List (ClientId × Outgoing)

namespace Server

def connection? (server : Server) (client : ClientId) : Option Connection :=
  server.connections.find? (·.client == client)

/-- Change the metrics, if they are kept. -/
def withMetrics (server : Server) (change : Metrics → Metrics) : Server :=
  { server with node := { server.node with metrics := server.node.metrics.map change } }

/-- Submit a request and let the hub process it. -/
def submit (server : Server) (command : Command) : Except HubError Unit × Server :=
  let (result, node, queues) := server.node.submit command server.queues
  (result.map fun _ => (), { server with node, queues })

/-- A new client handle and its queue. -/
def newHandle (server : Server) : Handle × Server :=
  (⟨server.fresh, server.fresh⟩,
    { server with
      queues := server.queues.insert server.fresh
        (.ofCapacity server.node.config.outboundCapacity)
      fresh := server.fresh + 1 })

/-- End a connection: its consumer is gone and its client leaves the hub. -/
def disconnect (server : Server) (connection : Connection) : Server :=
  let (_, server) := { server with
      connections := server.connections.filter (·.client != connection.client)
      queues := server.queues.update connection.queue Outbound.discard }.submit
    (.disconnect connection.client)
  server.withMetrics Metrics.connectionClosed

/-- Send what waits for one connection. If its queue has ended, so does the connection. -/
def flushOne (server : Server) (connection : Connection) : Sent × Server :=
  let (payloads, ended, queues) := server.queues.drainAll connection.queue
  let server := { server with queues }
  let sent := payloads.map fun data => (connection.client, Outgoing.ofPayload data)
  if ended then
    (sent ++ [(connection.client, .close), (connection.client, .ended)],
      server.disconnect connection)
  else (sent, server)

/-- Send what waits for each of some connections. -/
def flushEach : List Connection → Server → Sent × Server
  | [], server => ([], server)
  | connection :: rest, server =>
    let (sent, server) := server.flushOne connection
    let (later, server) := flushEach rest server
    (sent ++ later, server)

/-- Send what waits for any connection. -/
def flush (server : Server) : Sent × Server := flushEach server.connections server

/-- Open a connection whose session starts in `room`. If the hub is gone the connection is over at
    once. -/
def connect (server : Server) (room : String) : ClientId × Sent × Server :=
  let (handle, server) := server.newHandle
  match server.submit (.join room handle) with
  | (.error _, server) => (handle.client, [(handle.client, .ended)], server)
  | (.ok _, server) =>
    let server := { server with
      connections := server.connections ++ [Connection.mk handle.client handle.queue room] }
    let (sent, server) := (server.withMetrics Metrics.connectionOpened).flush
    (handle.client, sent, server)

/-- Add a member to a room that is no connection; nothing takes the payloads from its queue. -/
def addMember (server : Server) (room : String) : Except HubError Unit × Server :=
  let (handle, server) := server.newHandle
  server.submit (.join room handle)

/-- Submit broadcasts one after the other, and then send what waits. The result is that of the last
    one. -/
def broadcast (server : Server) (room : String) (payloads : List Bytes) (origin : Origin) :
    Except HubError Unit × Sent × Server :=
  let (result, server) := payloads.foldl
    (fun (_, server) payload => server.submit (.broadcast { room, payload, origin }))
    ((.ok () : Except HubError Unit), server)
  let (sent, server) := server.flush
  (result, sent, server)

/-- End a connection from the client's side. -/
def hangUp (server : Server) (connection : Connection) : Sent × Server :=
  ([(connection.client, .ended)], server.disconnect connection)

/-- Submit a request of a session; the connection ends if the hub is gone. -/
def request (server : Server) (connection : Connection) (command : Command) : Sent × Server :=
  match server.submit command with
  | (.ok _, server) => server.flush
  | (.error _, server) => server.hangUp connection

/-- Do what a frame has led to. -/
def perform (server : Server) (connection : Connection) (reaction : Session.Reaction) :
    Sent × Server :=
  match reaction with
  | .close => server.hangUp connection
  | .ignore => ([], server)
  | .move room =>
    let server := { server with
      connections := server.connections.map fun (other : Connection) =>
        if other.client = connection.client then { other with room } else other }
    server.request connection (.switch connection.client room)
  | .relay data => server.request connection (.broadcast ⟨connection.room, data, .here⟩)
  | .say message =>
    let server := { server with
      sink := server.sink.map fun (sink : Sink) => (sink.persist message).2 }
    server.request connection (.broadcast ⟨connection.room, message.encode, .here⟩)

/-- Take what a client sends. -/
def receive (server : Server) (client : ClientId) (now : Timestamp) (incoming : Incoming) :
    Sent × Server :=
  match server.connection? client with
  | none => ([], server)
  | some connection =>
    match incoming with
    | .data content => server.perform connection (Session.react connection.room now content)
    | .ping content =>
      if controlLimit < content.length then server.hangUp connection
      else ([(client, .pong content)], server)
    | .pong content =>
      if controlLimit < content.length then server.hangUp connection else ([], server)
    | .close => server.hangUp connection
    | .lost => server.hangUp connection

/-- The hub is stopped from outside. -/
def stopHub (server : Server) : Sent × Server :=
  let (node, queues) := server.node.abort server.queues
  { server with node, queues }.flush

/-- Count as failed what waits for other instances, where nothing can reach them. -/
def loseOutbox (server : Server) : Server :=
  match server.node.outbox, server.bridge with
  | some outbox, some bridge =>
    let (lost, outbox) := outbox.take outbox.waiting.length
    { server with
      node := { server.node with outbox := some outbox }
      bridge := some { bridge with
        publishErrors := bridge.publishErrors + lost.length
        dropped := outbox.refused } }
  | _, _ => server

/-- The registry of rooms at this moment. -/
def snapshot (server : Server) : Except HubError Snapshot := server.node.snapshot

/-- The rooms recorded as active on any instance, if presence is kept and can be read. -/
def activeRooms? (server : Server) : Option (List RoomPresence) :=
  match server.presenceFault with
  | some _ => none
  | none => server.node.presence.map PresenceLedger.active

end Server
end ChatRelay
