import ChatRelay.Bytes
import Std.Data.ExtTreeMap

/-! # Outbound queues

Each connected client has a bounded queue of payloads on their way to it. The hub puts payloads in
at one end and never waits; the consumer takes them out at the other. Either end can be given up:
the consumer may stop accepting, and the hub may let go, after which the consumer still reads what
is in the queue and then finds its end.
-/

namespace ChatRelay

/-- The bound of a queue where none is configured. -/
def defaultOutboundCapacity : Nat := 256

/-- One client's outbound queue. -/
structure Outbound where
  /-- Most payloads that the queue holds. -/
  bound : Nat
  /-- Payloads not yet taken, oldest first. -/
  backlog : List Bytes := []
  /-- Whether the consumer still accepts payloads. -/
  accepting : Bool := true
  /-- Whether the hub's end is still held. -/
  held : Bool := true
  deriving Repr, DecidableEq

/-- What became of a payload that was offered to a queue. -/
inductive Offer where
  | delivered
  /-- The consumer is too slow: the queue holds its bound. -/
  | full
  /-- The consumer is gone. -/
  | closed
  deriving Repr, DecidableEq

/-- What a consumer finds. -/
inductive Received where
  | payload (data : Bytes)
  /-- Nothing yet. -/
  | empty
  /-- Nothing any more. -/
  | ended
  deriving Repr, DecidableEq

namespace Outbound

/-- A queue for at least one payload. -/
def ofCapacity (capacity : Nat) : Outbound := { bound := max capacity 1 }

/-- Offer a payload. That the consumer is gone counts before the queue being full. -/
def offer (queue : Outbound) (data : Bytes) : Offer × Outbound :=
  if !queue.accepting then (.closed, queue)
  else if queue.bound ≤ queue.backlog.length then (.full, queue)
  else (.delivered, { queue with backlog := queue.backlog ++ [data] })

/-- Take the oldest payload. -/
def receive (queue : Outbound) : Received × Outbound :=
  match queue.backlog with
  | data :: rest => (.payload data, { queue with backlog := rest })
  | [] => (if queue.accepting && queue.held then .empty else .ended, queue)

/-- The consumer accepts nothing more; the backlog stays readable. -/
def close (queue : Outbound) : Outbound := { queue with accepting := false }

/-- The consumer is gone, and the backlog with it. -/
def discard (queue : Outbound) : Outbound := { queue with accepting := false, backlog := [] }

/-- The hub lets go of its end. -/
def release (queue : Outbound) : Outbound := { queue with held := false }

end Outbound

/-- A connected client. -/
abbrev ClientId := Nat

/-- One outbound queue. -/
abbrev QueueId := Nat

/-- The hub's end of a connection: who the client is, and where its payloads go. -/
structure Handle where
  client : ClientId
  queue : QueueId
  deriving Repr, DecidableEq

/-- All outbound queues by their identifiers. -/
abbrev Queues := Std.ExtTreeMap QueueId Outbound

namespace Queues

/-- Change one queue, if it exists. -/
def update (queues : Queues) (id : QueueId) (change : Outbound → Outbound) : Queues :=
  match queues[id]? with
  | some queue => queues.insert id (change queue)
  | none => queues

/-- Offer a payload to a queue; one that does not exist counts as closed. -/
def offer (queues : Queues) (id : QueueId) (data : Bytes) : Offer × Queues :=
  match queues[id]? with
  | some queue =>
    let (outcome, queue) := queue.offer data
    (outcome, queues.insert id queue)
  | none => (.closed, queues)

/-- Take the oldest payload of a queue; one that does not exist has ended. -/
def receive (queues : Queues) (id : QueueId) : Received × Queues :=
  match queues[id]? with
  | some queue =>
    let (found, queue) := queue.receive
    (found, queues.insert id queue)
  | none => (.ended, queues)

/-- Let go of the hub's ends of some queues. -/
def release (queues : Queues) (handles : List Handle) : Queues :=
  handles.foldl (fun queues handle => queues.update handle.queue Outbound.release) queues

end Queues
end ChatRelay
