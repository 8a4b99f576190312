/-! # State of the bridge

The counters by which the bridge to other instances reports what it has done.
-/

namespace ChatRelay

/-- Counters of the bridge. -/
structure BridgeStatus where
  /-- Whether the subscriber is listening. -/
  connected : Bool := false
  /-- Messages that reached the other side. -/
  published : Nat := 0
  /-- Messages lost because their batch failed. -/
  publishErrors : Nat := 0
  /-- Messages refused because there was no room for them. -/
  dropped : Nat := 0
  /-- Messages that arrived. -/
  received : Nat := 0
  /-- Of these, the ones handed to the hub. -/
  relayed : Nat := 0
  /-- Of these, the ones this instance had sent itself. -/
  skippedOwn : Nat := 0
  /-- Of these, the ones that could not be read. -/
  malformed : Nat := 0
  /-- Connections of the subscriber that failed or ended. -/
  reconnects : Nat := 0
  deriving Repr, DecidableEq, Inhabited

namespace BridgeStatus

/-- The counters by their names. -/
def counters (status : BridgeStatus) : List (String × Nat) :=
  [("published", status.published), ("publish_errors", status.publishErrors),
    ("dropped", status.dropped), ("received", status.received), ("relayed", status.relayed),
    ("skipped_own", status.skippedOwn), ("malformed", status.malformed),
    ("reconnects", status.reconnects)]

end BridgeStatus
end ChatRelay
