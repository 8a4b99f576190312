import ChatRelay.Presence.Ledger
import ChatRelay.Redis.Link

/-! # Reading presence

Presence may be kept outside the process, so reading it may fail.
-/

namespace ChatRelay

/-- Why presence cannot be read. -/
inductive PresenceError where
  | unavailable (cause : LinkError)
  deriving Repr, DecidableEq

/-- What is wrong, in words. -/
def PresenceError.message : PresenceError → String
  | .unavailable cause => "Presence store unavailable: " ++ cause.message

end ChatRelay
