import ChatRelay.Fanout.Inbound
import ChatRelay.Redis.Link

/-! # Faults of the bridge

Everything that can go wrong between two instances: the link, the subscription, and single messages.
-/

namespace ChatRelay

/-- Why the bridge cannot go on. -/
inductive BridgeError where
  | link (cause : LinkError)
  /-- Redis refused the subscription. -/
  | server (text : String)
  | inbound (fault : InboundFault)
  /-- The subscription ended. -/
  | streamEnded
  deriving Repr, DecidableEq

/-- What is wrong, in words. -/
def BridgeError.message : BridgeError → String
  | .link cause => "Redis link error: " ++ cause.message
  | .server text => "Redis error: " ++ text
  | .inbound fault => fault.message
  | .streamEnded => "Subscription stream ended"

end ChatRelay
