import ChatRelay.Fanout.Inbound
import ChatRelay.Fanout.Outbox
import ChatRelay.Hub.EventLoop
import ChatRelay.Metrics.Registry

/-! # A running instance

One instance of the server: a hub's event loop and what is attached to it. Each attachment is
optional. What the hub reports goes to the outbox of the fanout, the presence ledger and the
metrics; nothing comes back from them but the fanout's answer whether it accepts a payload.
-/

namespace ChatRelay

/-- How a hub is set up. -/
structure HubConfig where
  /-- Room in the command channel. -/
  commandCapacity : Nat := 4096
  /-- Bound of each client's outbound queue. -/
  outboundCapacity : Nat := defaultOutboundCapacity
  deriving Repr, DecidableEq, Inhabited

/-- An instance of the server. -/
structure Node where
  id : InstanceId
  naming : ChannelNaming := .default
  config : HubConfig := {}
  loop : EventLoop
  outbox : Option Outbox := none
  presence : Option PresenceLedger := none
  metrics : Option Metrics := none

/-- What became of a message from another instance. -/
inductive Relay where
  /-- It was handed to the hub. -/
  | relayed
  /-- This instance had sent it. -/
  | own
  | fault (fault : InboundFault)
  /-- The hub is gone. -/
  | closed
  deriving DecidableEq

namespace Node

/-- A new instance with nothing attached. -/
def start (id : InstanceId) (config : HubConfig) : Node :=
  { id := id, config, loop := .ofCapacity config.commandCapacity }

/-- The fanout's answer to the next payload. -/
def fanout (node : Node) : Option Bool := node.outbox.map Outbox.accepts

/-- Pass one report of the hub to what is attached. -/
def absorb (node : Node) : Event → Node
  | .recorded change => { node with presence := node.presence.map (·.record change) }
  | .published room payload _ =>
    { node with outbox := node.outbox.map fun outbox => (outbox.offer room payload).2 }
  | _ => node

/-- What other instances are told, channel and data each: the local broadcasts that the fanout
    accepted. -/
def announced (node : Node) : List Event → List (String × Bytes)
  | .published room payload true :: rest =>
    (node.naming.channel room, Wire.encode node.id payload) :: announced node rest
  | _ :: rest => announced node rest
  | [] => []

/-- Pass the reports of one step to what is attached. -/
def absorbStep (node : Node) (events : List Event) : Node :=
  let rooms := node.loop.hub.registry.roomCount
  let node := events.foldl absorb node
  { node with metrics := node.metrics.map fun metrics => metrics.noteStep events rooms }

/-- Let the loop make a step, if it can. -/
def advance (node : Node) (queues : Queues) : Option (List Event × Node × Queues) :=
  match node.loop.advance node.fanout queues with
  | none => none
  | some (events, loop, queues) =>
    let ended := !loop.running
    let node := { node with loop }
    some (events, if ended then node else node.absorbStep events, queues)

/-- Let the loop run until it has to wait, at most `fuel` steps. -/
def run : (fuel : Nat) → Node → Queues → List Event × Node × Queues
  | 0, node, queues => ([], node, queues)
  | fuel + 1, node, queues =>
    match node.advance queues with
    | none => ([], node, queues)
    | some (events, node, queues) =>
      let (later, node, queues) := run fuel node queues
      (events ++ later, node, queues)

/-- Let the loop run until it has to wait. Every step but the last takes a request. -/
def settle (node : Node) (queues : Queues) : List Event × Node × Queues :=
  run (node.loop.pending.length + 1) node queues

/-- Submit a request to an idle loop and let it run. A request that is refused loses the client
    handle that it carries. -/
def submit (node : Node) (command : Command) (queues : Queues) :
    Except HubError (List Event) × Node × Queues :=
  match node.loop.submit command with
  | (.accepted, loop) =>
    let (events, node, queues) := settle { node with loop } queues
    (.ok events, node, queues)
  | _ => (.error .closed, node, queues.release (EventLoop.carried command))

/-- The registry as it is after every request so far. -/
def snapshot (node : Node) : Except HubError Snapshot :=
  if node.loop.running then .ok node.loop.hub.registry.snapshot else .error .closed

/-- Take a message from another instance. -/
def relay (node : Node) (channel : String) (data : Bytes) (queues : Queues) :
    Relay × Node × Queues :=
  match acceptInbound node.id node.naming channel data with
  | .error fault => (.fault fault, node, queues)
  | .ok none => (.own, node, queues)
  | .ok (some envelope) =>
    match node.submit (.broadcast envelope) queues with
    | (.ok _, node, queues) => (.relayed, node, queues)
    | (.error _, node, queues) => (.closed, node, queues)

/-- One handle more. -/
def retain (node : Node) : Node := { node with loop := node.loop.retain }

/-- One handle less. After the last, the loop comes to its end when it runs next. -/
def drop (node : Node) : Node := { node with loop := node.loop.drop }

/-- Nobody holds a handle any more. The loop comes to its end when it runs next. -/
def unheld (node : Node) : Node := { node with loop := { node.loop with handles := 0 } }

/-- Nobody holds a handle any more, and the loop runs to its end. -/
def letGo (node : Node) (queues : Queues) : Node × Queues :=
  let (_, node, queues) := node.unheld.settle queues
  (node, queues)

/-- The loop is stopped from outside. -/
def abort (node : Node) (queues : Queues) : Node × Queues :=
  let (loop, queues) := node.loop.stop queues
  ({ node with loop }, queues)

end Node
end ChatRelay
