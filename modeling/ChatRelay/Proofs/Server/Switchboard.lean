import ChatRelay.Proofs.Hub.World
import ChatRelay.Server.State

/-! # Connections as tasks

A server lets every connection go about its own business. A connection joins its room; then its pump
takes frames and makes a request of each, while the queue is emptied elsewhere; when either of them
ends the connection leaves the hub, and the pump may go on for a while. Requests of all connections
and of everybody else meet in the one channel of the hub.

A switchboard is a hub among its clients with a line for each connection. It marks the requests in
the channel with the client whose pump made them.
-/

namespace ChatRelay

/-- The request that a reaction leads to. -/
def Session.Reaction.command? (connection : Connection) (reaction : Session.Reaction) :
    Option Command :=
  match reaction with
  | .move target => some (.switch connection.client target)
  | reaction => reaction.payload?.map fun payload =>
      .broadcast { room := connection.room, payload, origin := .here }

namespace Server

/-- What a server does with a reaction before it makes the request. -/
def prepare (server : Server) (connection : Connection) : Session.Reaction → Server
  | .move room =>
      { server with
        connections := server.connections.map fun (other : Connection) =>
          if other.client = connection.client then { other with room } else other }
  | .say message =>
      { server with sink := server.sink.map fun (sink : Sink) => (sink.persist message).2 }
  | _ => server

/-- The server asks for the same when it waits for every answer. -/
theorem perform_asking {server : Server} {connection : Connection}
    {reaction : Session.Reaction} {command : Command}
    (asks : reaction.command? connection = some command) :
    server.perform connection reaction =
      (server.prepare connection reaction).request connection command := by
  cases reaction with
  | close => cases asks
  | ignore => cases asks
  | move room => cases asks; rfl
  | relay data => cases asks; rfl
  | say message => cases asks; rfl

theorem prepare_node (server : Server) (connection : Connection) (reaction : Session.Reaction) :
    (server.prepare connection reaction).node = server.node ∧
      (server.prepare connection reaction).queues = server.queues := by
  cases reaction <;> exact ⟨rfl, rfl⟩

end Server

/-- How far a connection is. -/
inductive Stage where
  | joining
  | joined
  | leaving
  | over
  deriving DecidableEq

/-- What takes the frames of a connection. -/
inductive Pump where
  | off
  | idle
  /-- It makes a request, and the session is in `room` as soon as that is accepted. -/
  | asking (command : Command) (room : String)
  deriving DecidableEq

/-- A connection and its tasks. -/
structure Line where
  connection : Connection
  stage : Stage := .joining
  pump : Pump := .off

/-- What the pump does after a reaction to a frame. -/
def Line.pumpAfter (line : Line) (reaction : Session.Reaction) : Pump :=
  match reaction.command? line.connection with
  | some command => .asking command (reaction.roomAfter line.connection.room)
  | none =>
      match reaction with
      | .close => .off
      | _ => .idle

/-- A hub with its connections. -/
structure Switchboard where
  world : World
  lines : Std.ExtTreeMap ClientId Line := ∅
  /-- The pump that each request in the channel is from, if it is from one. -/
  authors : List (Option ClientId) := []

inductive SwitchboardMove where
  /-- A connection is opened, with a new client. -/
  | dial (handle : Handle) (capacity : Nat) (room : String)
  /-- A connection tries to join. -/
  | enter (client : ClientId)
  /-- A frame comes in. -/
  | frame (client : ClientId) (now : Timestamp) (data : Bytes)
  /-- A pump tries to make its request. -/
  | request (client : ClientId)
  /-- A pump comes to its end. -/
  | hush (client : ClientId)
  /-- A connection has lost one of its tasks. -/
  | part (client : ClientId)
  /-- A connection tries to leave the hub. -/
  | leave (client : ClientId)
  /-- Somebody else submits a request. -/
  | submit (command : Command)
  /-- Anything else happens. -/
  | other (move : WorldMove)

namespace Switchboard

def start (capacity : Nat) : Switchboard := { world := .start capacity }

/-- The requests in the channel with the pumps that they are from. -/
def mail (board : Switchboard) : List (Option ClientId × Command) :=
  board.authors.zip board.world.loop.pending

/-- Whether a client was never heard of. -/
def unknown (board : Switchboard) (client : ClientId) : Bool :=
  client ∉ board.lines ∧ board.world.loop.hub.registry.roomOf? client = none ∧
    ∀ command ∈ board.world.loop.pending, command.subject? ≠ some client

/-- Whether somebody else may make a request. Only a connection itself has its client join, switch
    and disconnect. -/
def admits (board : Switchboard) : Command → Bool
  | .join _ handle => handle.client ∉ board.lines
  | .switch client _ | .disconnect client => client ∉ board.lines
  | _ => true

/-- Whether a step beside the connections and all requests is possible. Nobody has the handles of a
    connection, and a connection keeps the hub. -/
def allows (board : Switchboard) : WorldMove → Bool
  | .connect handle _ | .push handle _ | .forget handle => handle.client ∉ board.lines
  | .submit _ => false
  | .drop => 1 < board.world.loop.handles ∨
      ∀ line ∈ board.lines.toList, line.2.stage = .over ∧ line.2.pump = .off
  | _ => true

def put (board : Switchboard) (client : ClientId) (line : Line) : Switchboard :=
  { board with lines := board.lines.insert client line }

/-- Submit a request, for the pump of `author` or for nobody's. -/
def ask (board : Switchboard) (author : Option ClientId) (command : Command) :
    Submission × Switchboard :=
  if board.world.loop.canUpgrade ∧ EventLoop.carried command ⊆ board.world.loose then
    let submission := (board.world.loop.submit command).1
    (submission, { board with
      world := board.world.step (.submit command)
      authors := if submission = .accepted then board.authors ++ [author] else board.authors })
  else (.waiting, board)

/-- A step of a connection. -/
def lineStep (board : Switchboard) (client : ClientId) (line : Line) : SwitchboardMove → Switchboard
  | .enter _ =>
      if line.stage = .joining then
        match board.ask none (.join line.connection.room ⟨client, line.connection.queue⟩) with
        | (.accepted, board) => board.put client { line with stage := .joined, pump := .idle }
        | (.waiting, board) => board
        | (.refused, board) => board.put client { line with stage := .over }
      else board
  | .frame _ now data =>
      if line.pump = .idle then
        let reaction := Session.react line.connection.room now data
        board.put client { line with pump := line.pumpAfter reaction }
      else board
  | .request _ =>
      match line.pump with
      | .asking command room =>
          match board.ask (some client) command with
          | (.accepted, board) =>
              board.put client
                { line with connection := { line.connection with room }, pump := .idle }
          | (.waiting, board) => board
          | (.refused, board) => board.put client { line with pump := .off }
      | _ => board
  | .hush _ => board.put client { line with pump := .off }
  | .part _ => if line.stage = .joined then board.put client { line with stage := .leaving } else board
  | .leave _ =>
      if line.stage = .leaving then
        match board.ask none (.disconnect client) with
        | (.waiting, board) => board
        | (_, board) => board.put client { line with stage := .over }
      else board
  | _ => board

end Switchboard

/-- The client whose connection takes a step. -/
def SwitchboardMove.line? : SwitchboardMove → Option ClientId
  | .enter client | .frame client _ _ | .request client | .hush client | .part client
  | .leave client => some client
  | _ => none

namespace Switchboard

/-- One step. A step that is not possible changes nothing. -/
def step (board : Switchboard) (move : SwitchboardMove) : Switchboard :=
  match move with
  | .dial handle capacity room =>
      if board.unknown handle.client ∧ handle.queue ∉ board.world.queues then
        { board with world := board.world.step (.connect handle capacity) }.put handle.client
          { connection := { client := handle.client, queue := handle.queue, room } }
      else board
  | .submit command => if board.admits command then (board.ask none command).2 else board
  | .other move =>
      if board.allows move then
        let world := board.world.step move
        -- requests that are gone take their marks along
        let gone := board.world.loop.pending.length - world.loop.pending.length
        { board with world, authors := board.authors.drop gone }
      else board
  | move =>
      match move.line? with
      | some client =>
          match board.lines[client]? with
          | some line => board.lineStep client line move
          | none => board
      | none => board

/-- The switchboard after some steps. -/
def run (board : Switchboard) (moves : List SwitchboardMove) : Switchboard := moves.foldl step board

/-- A request waits, or it is accepted, or the hub has ended. -/
theorem ask_cases (board : Switchboard) (author : Option ClientId) (command : Command) :
    board.ask author command = (.waiting, board) ∨
      EventLoop.carried command ⊆ board.world.loose ∧
        (board.ask author command = (.accepted,
            { board with
              world := { board.world with
                loop := { board.world.loop with pending := board.world.loop.pending ++ [command] }
                loose := board.world.loose.diff (EventLoop.carried command) }
              authors := board.authors ++ [author] }) ∨
          board.ask author command = (.refused,
            { board with
              world := { board.world with
                queues := board.world.queues.release (EventLoop.carried command)
                loose := board.world.loose.diff (EventLoop.carried command) } })) := by
  by_cases possible :
      board.world.loop.canUpgrade = true ∧ EventLoop.carried command ⊆ board.world.loose
  · simp only [ask, if_pos possible]
    cases submitted : board.world.loop.submit command with
    | mk submission loop =>
        have running := EventLoop.running_of_submit submitted
        cases submission with
        | waiting =>
            rw [World.step_submit_waiting (by rw [submitted])]
            exact .inl rfl
        | accepted =>
            rw [World.step, if_pos possible, submitted, EventLoop.eq_of_submit submitted]
            exact .inr ⟨possible.2, .inl rfl⟩
        | refused =>
            rw [World.step, if_pos possible, submitted]
            exact .inr ⟨possible.2, .inr rfl⟩
  · exact .inl (by simp only [ask, if_neg possible])

end Switchboard
end ChatRelay
