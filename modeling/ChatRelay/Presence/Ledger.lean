import Std.Data.ExtTreeMap
import Std.Data.ExtTreeSet

/-! # Presence accounting

A record of which rooms have members and how many, fed by the changes of membership that hubs
report. It is kept apart from any one hub and may drift: a departure that was never announced takes
a counter to zero or below, and then the room is forgotten.
-/

namespace ChatRelay

/-- A change of membership. -/
inductive PresenceChange where
  | joined (room : String)
  | left (room : String)
  deriving Repr, DecidableEq

namespace PresenceChange

/-- The room that the change is about. -/
def room : PresenceChange → String
  | joined room => room
  | left room => room

end PresenceChange

/-- How many members a room is recorded to have. -/
structure RoomPresence where
  room : String
  members : Int
  deriving Repr, DecidableEq

/-- The rooms recorded as active, and a counter for each. -/
structure PresenceLedger where
  rooms : Std.ExtTreeSet String := ∅
  members : Std.ExtTreeMap String Int := ∅

namespace PresenceLedger

/-- Whether a room with such a counter is forgotten. -/
def shouldPurge (count : Int) : Bool := count ≤ 0

/-- Counter of a room, if it is recorded. -/
def count? (ledger : PresenceLedger) (room : String) : Option Int := ledger.members[room]?

/-- Whether a room is recorded as active. -/
def isActive (ledger : PresenceLedger) (room : String) : Bool := ledger.rooms.contains room

/-- Record a change. The result is the new counter of the room, also when the room is forgotten. -/
def apply (ledger : PresenceLedger) (change : PresenceChange) : Int × PresenceLedger :=
  match change with
  | .joined room =>
    let count := (ledger.count? room).getD 0 + 1
    (count, { rooms := ledger.rooms.insert room, members := ledger.members.insert room count })
  | .left room =>
    let count := (ledger.count? room).getD 0 - 1
    if shouldPurge count then
      (count, { rooms := ledger.rooms.erase room, members := ledger.members.erase room })
    else (count, { ledger with members := ledger.members.insert room count })

/-- The ledger after a change. -/
def record (ledger : PresenceLedger) (change : PresenceChange) : PresenceLedger :=
  (ledger.apply change).2

/-- The active rooms with their counters, ascending by name. -/
def active (ledger : PresenceLedger) : List RoomPresence :=
  ledger.rooms.toList.map fun room => ⟨room, (ledger.count? room).getD 0⟩

end PresenceLedger
end ChatRelay
