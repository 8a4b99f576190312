import ChatRelay.Fanout.BridgeStatus
import ChatRelay.Fanout.Publisher
import ChatRelay.Fanout.Subscriber

/-! # The bridge

The bridge links an instance to the others: its publisher sends what the hub puts into the outbox,
and its subscriber relays what others send. The bridge ends when one of the two does: the publisher
when nobody can put anything into the outbox any more and everything in it is settled, the
subscriber when there is no hub. With the end of the bridge the outbox is abandoned.
-/

namespace ChatRelay

/-- A bridge with the outbox that it empties. -/
structure Bridge where
  outbox : Outbox
  publisher : Publisher := {}
  subscriber : Subscriber := {}
  /-- Whether the bridge has ended. -/
  ended : Bool := false

namespace Bridge

/-- Counters of a bridge. -/
def status (bridge : Bridge) : BridgeStatus where
  connected := bridge.subscriber.connected
  published := bridge.publisher.published
  publishErrors := bridge.publisher.failed
  dropped := bridge.outbox.refused
  received := bridge.subscriber.received
  relayed := bridge.subscriber.relayed
  skippedOwn := bridge.subscriber.skippedOwn
  malformed := bridge.subscriber.malformed
  reconnects := bridge.subscriber.reconnects

/-- End the bridge. What waits or is under way is lost. -/
def close (bridge : Bridge) : Bridge :=
  { bridge with
    outbox := bridge.outbox.abandon
    publisher := { bridge.publisher with batch := [] }
    subscriber := { bridge.subscriber with phase := .stopped }
    ended := true }

/-- Whether the publisher has nothing to do and will have nothing to do. -/
def isDrained (bridge : Bridge) (outboxHeld : Bool) : Bool :=
  !outboxHeld && bridge.outbox.waiting.isEmpty && bridge.publisher.batch.isEmpty

/-- Start a batch if there is something to send, and end the bridge if nothing is left to do. -/
def settle (bridge : Bridge) (outboxHeld : Bool) : Bridge :=
  if bridge.ended then bridge
  else
    let (publisher, outbox) := bridge.publisher.gather bridge.outbox
    let bridge := { bridge with publisher, outbox }
    if bridge.isDrained outboxHeld || bridge.subscriber.phase = .stopped then bridge.close
    else bridge

end Bridge
end ChatRelay
