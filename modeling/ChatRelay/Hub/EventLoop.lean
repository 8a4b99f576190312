import ChatRelay.Hub.Process

/-! # The event loop

Requests reach a hub through one bounded channel, in the order in which they were accepted, and the
loop takes them out one at a time. The loop ends when no handle to the hub is left and the channel
is empty, or when it is stopped. Its end lets go of every client handle that it still holds, in the
registry or in a request to join that was not processed.
-/

namespace ChatRelay

/-- Why a request to a hub fails. -/
inductive HubError where
  | closed
  deriving Repr, DecidableEq

/-- What is wrong, in words. -/
def HubError.message : HubError → String
  | .closed => "Hub event loop is not running"

/-- A hub with the channel in front of it. -/
structure EventLoop where
  hub : Hub := {}
  /-- Most requests that wait in the channel. -/
  capacity : Nat
  /-- Accepted requests that are not yet processed, oldest first. -/
  pending : List Command := []
  /-- Number of handles through which requests can come. -/
  handles : Nat := 1
  running : Bool := true

/-- What becomes of a request at the channel. -/
inductive Submission where
  | accepted
  /-- There is no room: the submitter waits. -/
  | waiting
  /-- The loop has ended. -/
  | refused
  deriving Repr, DecidableEq

namespace EventLoop

/-- A loop whose channel has room for at least one request. -/
def ofCapacity (capacity : Nat) : EventLoop := { capacity := max capacity 1 }

/-- Put a request into the channel, if it has room. -/
def submit (loop : EventLoop) (command : Command) : Submission × EventLoop :=
  if !loop.running then (.refused, loop)
  else if loop.capacity ≤ loop.pending.length then (.waiting, loop)
  else (.accepted, { loop with pending := loop.pending ++ [command] })

/-- The client handle that a request carries. -/
def carried : Command → List Handle
  | .join _ handle => [handle]
  | _ => []

/-- Every client handle that the loop holds. -/
def held (loop : EventLoop) : List Handle :=
  loop.hub.registry.handles ++ loop.pending.flatMap carried

/-- End the loop. The counters stay as they are. -/
def stop (loop : EventLoop) (queues : Queues) : EventLoop × Queues :=
  ({ loop with hub := { loop.hub with registry := {} }, pending := [], running := false },
    queues.release loop.held)

/-- Process the oldest request, or end the loop if there is none and none can come. Nothing if the
    loop has ended or has to wait. -/
def advance (fanout : Option Bool) (loop : EventLoop) (queues : Queues) :
    Option (List Event × EventLoop × Queues) :=
  if !loop.running then none
  else
    match loop.pending with
    | command :: rest =>
      let step := loop.hub.process fanout command queues
      some (step.events, { loop with hub := step.hub, pending := rest }, step.queues)
    | [] =>
      if loop.handles = 0 then
        let (loop, queues) := loop.stop queues
        some ([], loop, queues)
      else none

/-- One handle more. -/
def retain (loop : EventLoop) : EventLoop := { loop with handles := loop.handles + 1 }

/-- One handle less. -/
def drop (loop : EventLoop) : EventLoop := { loop with handles := loop.handles - 1 }

/-- Whether a handle can be had without having one: only while there are others. -/
def canUpgrade (loop : EventLoop) : Bool := loop.handles ≠ 0

end EventLoop
end ChatRelay
