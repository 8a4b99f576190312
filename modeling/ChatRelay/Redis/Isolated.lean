import ChatRelay.Config.Settings
import ChatRelay.Redis.Outage

/-! # An instance cut off from Redis

A hub with a bridge or a presence worker whose Redis is silent, and what others hold of them: the
hub lives as long as its handle, the outbox of the bridge as long as the hub that uses it or another
holder, and so does the queue of the worker.
-/

namespace ChatRelay

/-- An instance cut off from Redis. -/
structure Isolated where
  node : Node
  /-- Whether somebody holds the hub. -/
  hubHeld : Bool
  /-- Whether somebody beside the hub holds the outbox or the presence queue. -/
  ownHeld : Bool
  /-- Whether the hub uses the outbox or the presence queue. -/
  attached : Bool
  bridge : Option SilentBridge := none
  worker : Option SilentWorker := none
  /-- Whether the bridge has been started. -/
  started : Bool := false
  /-- Whether the bridge or the worker has been given up. -/
  givenUp : Bool := false

namespace Isolated

/-- Whether anybody can still put something into the outbox or the presence queue. -/
def held (s : Isolated) : Bool := s.ownHeld || (s.attached && s.node.loop.running)

/-- Let time pass, in milliseconds. -/
def pass (s : Isolated) (millis : Nat) : Isolated :=
  { s with
    bridge := s.bridge.map fun b =>
      if s.started && !s.givenUp then b.pass s.hubHeld s.held millis else b
    worker := s.worker.map (·.pass millis) }

/-- Change the bridge. -/
def onBridge (s : Isolated) (change : Bridge → Bridge) : Isolated :=
  { s with bridge := s.bridge.map fun b => { b with bridge := change b.bridge } }

/-- Change the worker. -/
def onWorker (s : Isolated) (change : PresenceWorker → PresenceWorker) : Isolated :=
  { s with worker := s.worker.map fun w => { w with worker := change w.worker } }

/-- Record changes of membership one after the other. -/
def record (s : Isolated) (changes : List PresenceChange) : Isolated :=
  s.onWorker fun worker => changes.foldl .record worker

/-- Submit a request to the hub and let it run. -/
def submit (s : Isolated) (command : Command) (queues : Queues) :
    Except HubError Unit × Isolated × Queues :=
  let outbox := if s.attached then s.bridge.map (·.bridge.outbox) else none
  let (result, node, queues) := { s.node with outbox }.submit command queues
  let s := { s with node }.onBridge fun bridge =>
    { bridge with outbox := node.outbox.getD bridge.outbox }
  match result with
  | .ok events => (.ok (), s.record (events.filterMap Event.change?), queues)
  | .error e => (.error e, s, queues)

/-- Whether somebody holds a bridge that has not been started. -/
def bridgeHeld (s : Isolated) : Bool := s.bridge.isSome && !s.started && !s.givenUp

/-- Whether there is a bridge that can be started. -/
def canStart (s : Isolated) : Bool := s.bridgeHeld && s.hubHeld

/-- Give up the bridge or the worker. -/
def giveUp (s : Isolated) : Isolated :=
  { (s.onBridge Bridge.close).onWorker PresenceWorker.stop with givenUp := true }

/-- Whether there is a bridge that has not been started. -/
def bridgeWaits (s : Isolated) : Bool := s.bridge.isSome && !s.started

/-- Start the bridge for the hub, and let its first attempt fail. A bridge without a hub to start it
    for is given up. -/
def start (s : Isolated) : Isolated :=
  if s.canStart then
    { s with started := true }.pass ((s.bridge.map fun (b : SilentBridge) => b.timeout).getD 0)
  else if s.bridgeWaits then s.giveUp
  else s

/-- Stop the worker, or the bridge if it has been started. -/
def stopTask (s : Isolated) : Isolated := if s.bridgeWaits then s else s.giveUp

/-- Whether the worker or the started bridge has come to its end; nothing if there is neither. -/
def finished? (s : Isolated) : Option Bool :=
  match s.bridge, s.worker with
  | some b, _ => if s.started then some b.bridge.ended else none
  | none, some w => some (!w.worker.running || (!s.held && w.worker.isIdle))
  | none, none => none

/-- Let go of the hub. -/
def dropHub (s : Isolated) (queues : Queues) : Isolated × Queues :=
  let (node, queues) := s.node.letGo queues
  ({ s with node, hubHeld := false }, queues)

/-- Stop the hub from outside; its handle stays. -/
def stopHub (s : Isolated) (queues : Queues) : Isolated × Queues :=
  let (node, queues) := s.node.abort queues
  ({ s with node }, queues)

/-- An instance with a bridge, used by the hub or by others. -/
def withBridge (node : Node) (hubHeld attached : Bool) (redis : RedisSettings) : Isolated where
  node
  hubHeld
  ownHeld := !attached
  attached
  bridge := some {
    bridge := { outbox := .ofCapacity redis.queueCapacity }
    timeout := redis.opTimeoutMs }

/-- An instance whose presence is kept in Redis. -/
def withWorker (node : Node) (hubHeld : Bool) (redis : RedisSettings) : Isolated where
  node
  hubHeld
  ownHeld := true
  attached := hubHeld
  worker := some {
    worker := .ofCapacity redis.queueCapacity
    timeout := redis.opTimeoutMs }

end Isolated
end ChatRelay
