import ChatRelay.Instance

/-! # Broadcast envelopes

A broadcast is a payload for the members of a room, together with where it came from: a connection
of this instance, or another instance. The mark decides whether it is passed on.
-/

namespace ChatRelay

/-- Where a broadcast entered. -/
inductive Origin where
  /-- Submitted on this instance. -/
  | here
  /-- Published by another instance. -/
  | instance (id : InstanceId)
  deriving DecidableEq

/-- A payload for every member of a room. -/
structure Envelope where
  room : String
  payload : Bytes
  origin : Origin
  deriving DecidableEq

namespace Envelope

/-- Whether the broadcast is to be passed on to other instances. -/
def isLocal (envelope : Envelope) : Bool :=
  match envelope.origin with
  | .here => true
  | .instance _ => false

end Envelope
end ChatRelay
