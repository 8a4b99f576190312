import ChatRelay.Hub.Envelope
import ChatRelay.Hub.Registry
import ChatRelay.Presence.Ledger

/-! # The hub

The hub owns the registry and processes one command at a time, so joins, departures and broadcasts
are totally ordered. Nothing in it waits: a payload is offered to each member's queue, and members
whose queue is full or gone are removed.

`Hub.process` is one step of the hub. It changes the registry, the counters and the outbound queues,
and lists what it reports to others: changes of membership, deliveries, payloads handed to the
fanout, and answers to requests for a snapshot. Whether the fanout accepts a payload is the one
thing that the hub learns from outside.
-/

namespace ChatRelay

/-- A request to the hub. -/
inductive Command where
  | join (room : String) (handle : Handle)
  | leave (room : String) (client : ClientId)
  | switch (client : ClientId) (room : String)
  | disconnect (client : ClientId)
  | broadcast (envelope : Envelope)
  /-- Answer with the registry at this moment; `ticket` names the request. -/
  | snapshot (ticket : Nat)
  deriving DecidableEq

/-- Counters of a hub. -/
structure HubStats where
  broadcasts : Nat := 0
  remoteBroadcasts : Nat := 0
  deliveries : Nat := 0
  evictions : Nat := 0
  /-- Local broadcasts that the fanout accepted. -/
  published : Nat := 0
  /-- Local broadcasts that the fanout refused, so that no other instance saw them. -/
  unpublished : Nat := 0
  rooms : Nat := 0
  clients : Nat := 0
  deriving Repr, DecidableEq, Inhabited

/-- What the hub reports while it processes a command. -/
inductive Event where
  /-- A change of membership, for the presence store. -/
  | recorded (change : PresenceChange)
  /-- A broadcast was offered to its room. -/
  | delivered (envelope : Envelope) (report : DeliveryReport)
  /-- A local broadcast was handed to the fanout, which accepted or refused it. -/
  | published (room : String) (payload : Bytes) (accepted : Bool)
  /-- A request for a snapshot was answered. -/
  | answered (ticket : Nat) (snapshot : Snapshot)
  deriving DecidableEq

/-- The change of membership that a report tells of. -/
def Event.change? : Event → Option PresenceChange
  | .recorded change => some change
  | _ => none

/-- The state of a hub. -/
structure Hub where
  registry : Registry := {}
  stats : HubStats := {}

/-- What one step leads to. -/
structure Step where
  hub : Hub
  queues : Queues
  events : List Event

namespace Hub

/-- The report of a client leaving a room. -/
def departed (departure : Option Departure) : List Event :=
  match departure with
  | some departure => [.recorded (.left departure.room)]
  | none => []

/-- The reports of a client coming to `room`: the departure from another room first. -/
def arrived (room : String) (outcome : JoinOutcome) : List Event :=
  departed outcome.movedFrom ++ if outcome.added then [.recorded (.joined room)] else []

/-- Hand a payload to the fanout, if there is one and the broadcast is a local one; `fanout` is
    what the fanout will say. -/
def publish (fanout : Option Bool) (envelope : Envelope) (stats : HubStats) :
    HubStats × List Event :=
  if envelope.isLocal then
    match fanout with
    | none => (stats, [])
    | some accepted =>
      let stats := if accepted then { stats with published := stats.published + 1 }
        else { stats with unpublished := stats.unpublished + 1 }
      (stats, [.published envelope.room envelope.payload accepted])
  else ({ stats with remoteBroadcasts := stats.remoteBroadcasts + 1 }, [])

/-- Process a broadcast. -/
def broadcast (fanout : Option Bool) (envelope : Envelope) (hub : Hub) (queues : Queues) : Step :=
  let (report, released, registry, queues) :=
    hub.registry.deliver envelope.room envelope.payload queues
  let stats := { hub.stats with
    broadcasts := hub.stats.broadcasts + 1
    deliveries := hub.stats.deliveries + report.delivered
    evictions := hub.stats.evictions + report.evicted.length }
  let (stats, published) := publish fanout envelope stats
  { hub := { registry, stats }
    queues := queues.release released
    events := .delivered envelope report ::
      report.removed.map (fun _ => .recorded (.left envelope.room)) ++ published }

/-- Process a command, but for the counters of rooms and clients. -/
def handle (fanout : Option Bool) (command : Command) (hub : Hub) (queues : Queues) : Step :=
  match command with
  | .join room handle =>
    let (outcome, released, registry) := hub.registry.join room handle
    { hub := { hub with registry }, queues := queues.release released
      events := arrived room outcome }
  | .leave room client =>
    let (departure, released, registry) := hub.registry.leave room client
    { hub := { hub with registry }, queues := queues.release released
      events := departed departure }
  | .switch client room =>
    let (outcome, released, registry) := hub.registry.switch client room
    { hub := { hub with registry }, queues := queues.release released
      events := match outcome with
        | some outcome => arrived room outcome
        | none => [] }
  | .disconnect client =>
    let (departure, released, registry) := hub.registry.disconnect client
    { hub := { hub with registry }, queues := queues.release released
      events := departed departure }
  | .broadcast envelope => broadcast fanout envelope hub queues
  | .snapshot ticket => { hub, queues, events := [.answered ticket hub.registry.snapshot] }

/-- Bring the counters of rooms and clients up to date. -/
def recount (hub : Hub) : Hub :=
  { hub with stats := { hub.stats with
      rooms := hub.registry.roomCount
      clients := hub.registry.clientCount } }

/-- Process one command. -/
def process (fanout : Option Bool) (command : Command) (hub : Hub) (queues : Queues) : Step :=
  let step := handle fanout command hub queues
  { step with hub := step.hub.recount }

end Hub
end ChatRelay
