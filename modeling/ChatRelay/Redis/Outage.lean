import ChatRelay.Fanout.Bridge
import ChatRelay.Presence.Worker

/-! # While Redis is silent

Without an answer from Redis every exchange ends when its time is up, and then the next one begins.
This module follows a bridge and a presence worker through such a time. Times are in milliseconds,
counted from the beginning; pauses are as scheduled, without jitter.
-/

namespace ChatRelay

/-- A bridge whose Redis is silent. -/
structure SilentBridge where
  bridge : Bridge
  /-- How long an exchange may take. -/
  timeout : Nat
  now : Rat := 0
  /-- When the batch under way fails. -/
  batchDue : Rat := 0
  /-- When the subscriber's attempt fails, or its pause is over. -/
  subscriberDue : Rat := 0

namespace SilentBridge

/-- Start a batch if there is something to send. It fails when its time is up. -/
def settle (outboxHeld : Bool) (s : SilentBridge) : SilentBridge :=
  { s with
    bridge := s.bridge.settle outboxHeld
    batchDue := if s.bridge.publisher.batch.isEmpty then s.now + s.timeout else s.batchDue }

/-- The batch under way fails. -/
def failBatch (outboxHeld : Bool) (s : SilentBridge) : SilentBridge :=
  let bridge := { s.bridge with publisher := s.bridge.publisher.settle false }
  settle outboxHeld { s with now := s.batchDue, bridge }

/-- The subscriber's attempt fails, or its pause is over and it tries again. -/
def turn (hubExists outboxHeld : Bool) (s : SilentBridge) : SilentBridge :=
  let subscriber := match s.bridge.subscriber.phase with
    | .connecting => s.bridge.subscriber.fail 1
    | _ => s.bridge.subscriber.wake hubExists
  let wait := match subscriber.phase with
    | .pausing delay => 1000 * delay
    | _ => s.timeout
  settle outboxHeld { s with
    bridge := { s.bridge with subscriber }
    now := s.subscriberDue
    subscriberDue := s.subscriberDue + wait }

/-- Whether the publisher is the next to do something. -/
def publisherNext (s : SilentBridge) : Bool :=
  !s.bridge.publisher.batch.isEmpty && s.batchDue ≤ s.subscriberDue

/-- Everything that happens until a moment, at most `fuel` events. -/
def passUntil (hubExists outboxHeld : Bool) (moment : Rat) :
    (fuel : Nat) → SilentBridge → SilentBridge
  | 0, s => { s with now := moment }
  | fuel + 1, s =>
    if s.bridge.ended then { s with now := moment }
    else if s.publisherNext && s.batchDue ≤ moment then
      passUntil hubExists outboxHeld moment fuel (s.failBatch outboxHeld)
    else if !s.publisherNext && s.subscriberDue ≤ moment then
      passUntil hubExists outboxHeld moment fuel (s.turn hubExists outboxHeld)
    else { s with now := moment }

/-- Let time pass. Every batch takes at least one broadcast out, and after every other event of the
    subscriber there is a pause of at least a tenth of a second. -/
def pass (hubExists outboxHeld : Bool) (millis : Nat) (s : SilentBridge) : SilentBridge :=
  passUntil hubExists outboxHeld (s.now + millis)
    (2 * millis + s.bridge.outbox.waiting.length + s.bridge.publisher.batch.length + 4)
    (s.settle outboxHeld)

end SilentBridge

/-- A presence worker whose Redis is silent. -/
structure SilentWorker where
  worker : PresenceWorker
  /-- How long an exchange may take. -/
  timeout : Nat
  now : Nat := 0
  /-- When the exchange under way fails. -/
  due : Nat := 0

namespace SilentWorker

/-- Begin with the next change; its exchange fails when its time is up. -/
def settle (s : SilentWorker) : SilentWorker :=
  { s with
    worker := s.worker.begin
    due := if s.worker.phase = .idle then s.now + s.timeout else s.due }

/-- Everything that happens until a moment, at most `fuel` exchanges. -/
def passUntil (moment : Nat) : (fuel : Nat) → SilentWorker → SilentWorker
  | 0, s => { s with now := moment }
  | fuel + 1, s =>
    if !s.worker.isIdle && s.due ≤ moment then
      passUntil moment fuel (settle { s with worker := s.worker.settle none, now := s.due })
    else { s with now := moment }

/-- Let time pass. Every exchange is about a change of its own, because a departure that could not
    be counted removes nothing. -/
def pass (millis : Nat) (s : SilentWorker) : SilentWorker :=
  passUntil (s.now + millis) (s.worker.queue.length + 1) s.settle

end SilentWorker
end ChatRelay
