import ChatRelay.Fanout.Backoff
import ChatRelay.Fanout.BridgeError
import ChatRelay.Fanout.Inbound

/-! # The subscriber

The subscriber listens to the channels of all rooms and relays what other instances send. When its
connection cannot be had or is lost it waits and tries again, longer each time until it listens once
more. It goes on as long as there is a hub to relay to.

Each operation is one step; one that does not apply to the present phase changes nothing.
-/

namespace ChatRelay

/-- What the subscriber is doing. -/
inductive SubscriberPhase where
  /-- It is about to try again, if there is still a hub. -/
  | waking
  | connecting
  | listening
  /-- It hands an envelope to the hub. -/
  | relaying (envelope : Envelope)
  /-- It waits before the next attempt. -/
  | pausing (delay : Rat)
  | stopped
  deriving DecidableEq

/-- State of the subscriber. -/
structure Subscriber where
  phase : SubscriberPhase := .waking
  backoff : Backoff := .standard
  connected : Bool := false
  /-- Messages that arrived. -/
  received : Nat := 0
  /-- Of these, the ones handed to the hub. -/
  relayed : Nat := 0
  /-- Of these, the ones this instance had sent itself. -/
  skippedOwn : Nat := 0
  /-- Of these, the ones that could not be read. -/
  malformed : Nat := 0
  /-- Connections that failed or ended. -/
  reconnects : Nat := 0

namespace Subscriber

/-- Try to connect, or stop if there is no hub any more. -/
def wake (subscriber : Subscriber) (hubExists : Bool) : Subscriber :=
  match subscriber.phase with
  | .waking | .pausing _ =>
    { subscriber with phase := if hubExists then .connecting else .stopped }
  | _ => subscriber

/-- The subscription stands. -/
def listen (subscriber : Subscriber) : Subscriber :=
  match subscriber.phase with
  | .connecting =>
    { subscriber with
      phase := .listening
      connected := true
      backoff := subscriber.backoff.reset }
  | _ => subscriber

/-- The connection failed or ended; wait before the next one. -/
def fail (subscriber : Subscriber) (jitter : Rat) : Subscriber :=
  match subscriber.phase with
  | .connecting | .listening =>
    let (delay, backoff) := subscriber.backoff.next jitter
    { subscriber with
      phase := .pausing delay
      backoff
      connected := false
      reconnects := subscriber.reconnects + 1 }
  | _ => subscriber

/-- A message arrived. -/
def receive (subscriber : Subscriber) (self : InstanceId) (naming : ChannelNaming)
    (channel : String) (data : Bytes) : Subscriber :=
  match subscriber.phase with
  | .listening =>
    let subscriber := { subscriber with received := subscriber.received + 1 }
    match acceptInbound self naming channel data with
    | .ok (some envelope) => { subscriber with phase := .relaying envelope }
    | .ok none => { subscriber with skippedOwn := subscriber.skippedOwn + 1 }
    | .error _ => { subscriber with malformed := subscriber.malformed + 1 }
  | _ => subscriber

/-- The hub took the envelope, or was gone. -/
def relay (subscriber : Subscriber) (taken : Bool) : Subscriber :=
  match subscriber.phase with
  | .relaying _ =>
    if taken then { subscriber with phase := .listening, relayed := subscriber.relayed + 1 }
    else { subscriber with phase := .stopped, connected := false }
  | _ => subscriber

end Subscriber
end ChatRelay
