import ChatRelay.Hub.Node
import ChatRelay.Proofs.Hub.Headcount
import ChatRelay.Proofs.Hub.Meters
import ChatRelay.Proofs.Run

/-! # An instance among its clients

A hub with whatever is attached to it, its clients and everybody who makes requests. The fanout may
change at any time, so that it accepts or refuses each broadcast as it likes; others may use the
metrics that are not those of a hub.
-/

namespace ChatRelay

structure Venue where
  node : Node
  queues : Queues := ∅
  loose : List Handle := []

inductive VenueMove where
  /-- One of the parties takes a step. What the fanout says to the loop is up to the fanout. -/
  | world (move : WorldMove)
  | fanout (change : Outbox → Outbox)
  | request (method path : String) (status : Nat) (time : Binary64)
  | opened
  | closed
  | bridge (status : BridgeStatus)

/-- Whatever is counted without a hub. -/
def Metrics.noteOther (metrics : Metrics) : VenueMove → Metrics
  | .request method path status time => metrics.noteRequest method path status time
  | .opened => metrics.connectionOpened
  | .closed => metrics.connectionClosed
  | .bridge status => metrics.observeBridge status
  | _ => metrics

namespace Node

variable {node : Node}

@[simp] theorem loop_foldl_absorb (events : List Event) :
    (events.foldl absorb node).loop = node.loop := by
  induction events generalizing node with
  | nil => rfl
  | cons event events ih =>
      rw [List.foldl_cons, ih]
      cases event <;> rfl

@[simp] theorem metrics_foldl_absorb (events : List Event) :
    (events.foldl absorb node).metrics = node.metrics := by
  induction events generalizing node with
  | nil => rfl
  | cons event events ih =>
      rw [List.foldl_cons, ih]
      cases event <;> rfl

@[simp] theorem outbox_foldl_absorb (events : List Event) :
    (events.foldl absorb node).outbox.isSome = node.outbox.isSome := by
  induction events generalizing node with
  | nil => rfl
  | cons event events ih =>
      rw [List.foldl_cons, ih]
      cases event <;> simp [absorb]

theorem advance_cons {command : Command} {rest : List Command}
    (running : node.loop.running = true) (next : node.loop.pending = command :: rest)
    (queues : Queues) :
    node.advance queues =
      let step := node.loop.hub.process node.fanout command queues
      let loop := { node.loop with hub := step.hub, pending := rest }
      some (step.events, absorbStep { node with loop } step.events, step.queues) := by
  simp [advance, EventLoop.advance_cons running next, running]

end Node

namespace Venue

/-- The venue without what is attached to the hub. -/
def world (venue : Venue) : World :=
  { loop := venue.node.loop, queues := venue.queues, loose := venue.loose }

/-- A step of the world, with the answer of the fanout that is attached. -/
def actual (venue : Venue) : WorldMove → WorldMove
  | .advance _ => .advance venue.node.fanout
  | move => move

/-- One step. It shows the world before it with the step that the world takes. -/
def step (venue : Venue) : VenueMove → List (World × WorldMove) × Venue
  | .world (.advance _) =>
      ([(venue.world, .advance venue.node.fanout)],
        match venue.node.advance venue.queues with
        | some (_, node, queues) => { venue with node, queues }
        | none => venue)
  | .world move =>
      let world := venue.world.step move
      ([(venue.world, move)],
        { node := { venue.node with loop := world.loop }
          queues := world.queues
          loose := world.loose })
  | .fanout change =>
      ([], { venue with node := { venue.node with outbox := venue.node.outbox.map change } })
  | move =>
      ([], { venue with
        node := { venue.node with metrics := venue.node.metrics.map (·.noteOther move) } })

/-- A new instance and nobody else. -/
def start (node : Node) (capacity : Nat) : Venue :=
  { node := { node with loop := .ofCapacity capacity, metrics := node.metrics.map fun _ => {} } }

@[simp] theorem world_loop (venue : Venue) : venue.world.loop = venue.node.loop := rfl

@[simp] theorem world_queues (venue : Venue) : venue.world.queues = venue.queues := rfl

/-- What is attached to a hub does not change what happens to it. -/
theorem world_step (venue : Venue) (move : WorldMove) :
    (venue.step (.world move)).1 = [(venue.world, venue.actual move)] ∧
      (venue.step (.world move)).2.world = venue.world.step (venue.actual move) := by
  cases move with
  | advance answer =>
      refine ⟨rfl, ?_⟩
      simp only [step, actual, World.step, world, Node.advance]
      cases next : venue.node.loop.advance venue.node.fanout venue.queues with
      | none => rfl
      | some result =>
          obtain ⟨events, loop, queues⟩ := result
          cases running : loop.running <;> simp [Node.absorbStep, running]
  | _ => exact ⟨rfl, rfl⟩

/-- The loop processes a request, and what is attached hears of it. -/
theorem step_advance {venue : Venue} {command : Command} {rest : List Command}
    (running : venue.node.loop.running = true) (next : venue.node.loop.pending = command :: rest)
    (answer : Option Bool) :
    (venue.step (.world (.advance answer))).2 =
      let step := venue.node.loop.hub.process venue.node.fanout command venue.queues
      let loop := { venue.node.loop with hub := step.hub, pending := rest }
      { venue with
        node := Node.absorbStep { venue.node with loop } step.events
        queues := step.queues } := by
  simp only [step, Node.advance_cons running next]

theorem node_processing {venue : Venue} (answer : Option Bool) {command : Command}
    (processed : venue.world.processing? (.advance venue.node.fanout) = some command) :
    (venue.step (.world (.advance answer))).2.node =
      let step := venue.node.loop.hub.process venue.node.fanout command venue.queues
      let loop := { venue.node.loop with hub := step.hub, pending := venue.node.loop.pending.tail }
      Node.absorbStep { venue.node with loop } step.events := by
  obtain ⟨fanout, rest, -, running, next⟩ := World.processing?_eq_some processed
  rw [step_advance running next answer, show venue.node.loop.pending = _ from next, List.tail_cons]

/-- It hears of nothing else. -/
theorem node_idle {venue : Venue} {move : WorldMove}
    (idle : venue.world.processing? (venue.actual move) = none) :
    (venue.step (.world move)).2.node =
      { venue.node with loop := (venue.step (.world move)).2.node.loop } := by
  cases move with
  | advance answer =>
      simp only [step, Node.advance]
      cases running : venue.node.loop.running with
      | false => rw [EventLoop.advance_ended running]
      | true =>
          cases next : venue.node.loop.pending with
          | nil =>
              rw [EventLoop.advance_nil running next]
              by_cases unheld : venue.node.loop.handles = 0
              · simp [unheld, EventLoop.stop]
              · simp [unheld]
          | cons command rest => simp [World.processing?, actual, running, next] at idle
  | _ => rfl

end Venue
end ChatRelay
