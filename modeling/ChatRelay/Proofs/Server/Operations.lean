import ChatRelay.Proofs.Hub.Venue
import ChatRelay.Proofs.Server.Switchboard

/-! # What operations of a server are made of

A server does little at a time: it lets the hub process a request, it takes what waits in queues, and
it ends connections. Larger operations are made of these, so that a relation between a server and
what becomes of it holds of them all if it holds of these.

A loop that has nothing to do processes a request at once.
-/

namespace ChatRelay

/-- A loop that waits for requests and has room for one. -/
structure EventLoop.Ready (loop : EventLoop) : Prop where
  running : loop.running = true
  quiet : loop.pending = []
  held : loop.handles ≠ 0
  room : 0 < loop.capacity

namespace EventLoop.Ready

variable {loop : EventLoop}

theorem submit (ready : loop.Ready) (command : Command) :
    loop.submit command = (.accepted, { loop with pending := [command] }) := by
  simp [EventLoop.submit, ready.running, ready.quiet, Nat.ne_of_gt ready.room]

/-- A loop that is idle processes a request at once and is idle again. -/
theorem node_submit {node : Node} (ready : node.loop.Ready) (command : Command) (queues : Queues) :
    node.submit command queues =
      let step := node.loop.hub.process node.fanout command queues
      (.ok step.events,
        Node.absorbStep { node with loop := { node.loop with hub := step.hub } } step.events,
        step.queues) := by
  have waits (later : Node) (queues : Queues) (running : later.loop.running = true)
      (quiet : later.loop.pending = []) (held : later.loop.handles ≠ 0) :
      later.advance queues = none := by
    simp [Node.advance, advance_nil running quiet, held]
  have takes := @Node.advance_cons { node with loop := { node.loop with pending := [command] } }
    command [] ready.running rfl queues
  simp only [Node.submit, ready.submit, Node.settle, Node.run, List.length_singleton, takes]
  rw [waits]
  · simp [Node.absorbStep, Node.fanout, ready.quiet]
  all_goals simp [Node.absorbStep, ready.running, ready.held]

end EventLoop.Ready

namespace Server

theorem ready_submit {node : Node} (ready : node.loop.Ready) (command : Command) (queues : Queues) :
    (node.submit command queues).2.1.loop.Ready := by
  rw [ready.node_submit]
  simp only [Node.absorbStep, Node.loop_foldl_absorb]
  exact ⟨ready.running, ready.quiet, ready.held, ready.room⟩

theorem accepted_submit {server : Server} (ready : server.node.loop.Ready) (command : Command) :
    (server.submit command).1 = .ok () := by
  change (server.node.submit command server.queues).1.map _ = _
  rw [ready.node_submit]
  rfl

/-- A relation that covers all that a server does at a time. -/
structure Covers (Rel : Server → Server → Prop) : Prop where
  refl (server : Server) : Rel server server
  trans {server after later : Server} :
    Rel server after → Rel after later → Rel server later
  drain (server : Server) (queues : Queues) : Rel server { server with queues }
  submit (server : Server) (command : Command) : Rel server (server.submit command).2
  disconnect (server : Server) (connection : Connection) :
    Rel server (server.disconnect connection)

namespace Covers

variable {Rel : Server → Server → Prop}

theorem flushOne (covers : Covers Rel) (server : Server) (connection : Connection) :
    Rel server (server.flushOne connection).2 := by
  have drained := covers.drain server (server.queues.drainAll connection.queue).2.2
  unfold Server.flushOne
  dsimp only
  split
  · exact covers.trans drained (covers.disconnect _ connection)
  · exact drained

theorem flush (covers : Covers Rel) (server : Server) : Rel server server.flush.2 := by
  have each (connections : List Connection) : Rel server (flushEach connections server).2 := by
    induction connections generalizing server with
    | nil => exact covers.refl server
    | cons connection rest ih =>
        exact covers.trans (covers.flushOne server connection)
          (ih (server.flushOne connection).2)
  exact each server.connections

theorem hangUp (covers : Covers Rel) (server : Server) (connection : Connection) :
    Rel server (server.hangUp connection).2 :=
  covers.disconnect server connection

theorem request (covers : Covers Rel) (server : Server) (connection : Connection)
    (command : Command) : Rel server (server.request connection command).2 := by
  have submitted := covers.submit server command
  unfold Server.request
  split
  · next after same =>
      rw [same] at submitted
      exact covers.trans submitted (covers.flush after)
  · next after same =>
      rw [same] at submitted
      exact covers.trans submitted (covers.hangUp after connection)

/-- A reaction is carried out by a server that is prepared for it. -/
theorem perform (covers : Covers Rel) (server : Server) (connection : Connection)
    (reaction : Session.Reaction) :
    Rel (server.prepare connection reaction) (server.perform connection reaction).2 := by
  cases asks : reaction.command? connection with
  | some command =>
      rw [perform_asking asks]
      exact covers.request _ connection command
  | none =>
      cases reaction with
      | close => exact covers.hangUp server connection
      | ignore => exact covers.refl server
      | move room => cases asks
      | relay data => cases asks
      | say message => cases asks

/-- Either a frame is taken, or the server does nothing but what is covered. -/
theorem receive_cases (covers : Covers Rel) (server : Server) (sender : ClientId)
    (now : Timestamp) (incoming : Incoming) :
    (∃ connection data, incoming = .data data ∧ server.connection? sender = some connection ∧
      server.receive sender now incoming =
        server.perform connection (Session.react connection.room now data)) ∨
    Rel server (server.receive sender now incoming).2 := by
  cases found : server.connection? sender with
  | none =>
      rw [receive, found]
      exact .inr (covers.refl server)
  | some connection =>
      cases incoming with
      | data data => exact .inl ⟨connection, data, rfl, rfl, by rw [receive, found]⟩
      | ping content | pong content =>
          rw [receive, found]
          dsimp only
          split
          · exact .inr (covers.hangUp server connection)
          · exact .inr (covers.refl server)
      | close | lost =>
          rw [receive, found]
          exact .inr (covers.hangUp server connection)

end Covers

end Server
end ChatRelay
