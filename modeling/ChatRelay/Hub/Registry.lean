import ChatRelay.Hub.Outbound

/-! # The room registry

Which clients are in which room. A room exists exactly as long as it has members, and a client is in
at most one room. Two maps are kept in step: the members of each room with their handles, and the
room of each client.

Every operation says what it changed and which handles it let go of; the caller closes the queues
of those.
-/

namespace ChatRelay

/-- The members of one room. -/
abbrev Members := Std.ExtTreeMap ClientId Handle

/-- A client leaving a room. -/
structure Departure where
  client : ClientId
  room : String
  /-- The room lost its last member and is gone. -/
  roomClosed : Bool
  deriving Repr, DecidableEq

/-- What adding a client to a room did. -/
structure JoinOutcome where
  /-- The room did not exist before. -/
  created : Bool := false
  /-- The client was not yet a member of the room. -/
  added : Bool := false
  /-- The client was taken out of another room first. -/
  movedFrom : Option Departure := none
  deriving Repr, DecidableEq, Inhabited

/-- What delivering one payload to a room did. -/
structure DeliveryReport where
  /-- Number of members whose queue took the payload. -/
  delivered : Nat := 0
  /-- Members removed because their queue was full. -/
  evicted : List ClientId := []
  /-- Members removed because their connection was gone. -/
  disconnected : List ClientId := []
  /-- The room lost its last member and is gone. -/
  roomClosed : Bool := false
  deriving Repr, DecidableEq, Inhabited

namespace DeliveryReport

/-- The members that the delivery removed. -/
def removed (report : DeliveryReport) : List ClientId := report.evicted ++ report.disconnected

/-- Add what became of the payload for one member. -/
def note (report : DeliveryReport) (client : ClientId) : Offer → DeliveryReport
  | .delivered => { report with delivered := report.delivered + 1 }
  | .full => { report with evicted := client :: report.evicted }
  | .closed => { report with disconnected := client :: report.disconnected }

end DeliveryReport

/-- A view of the registry at one moment. -/
structure Snapshot where
  /-- Each room with its number of members, ascending by name. -/
  rooms : List (String × Nat)
  /-- Number of registered clients. -/
  clients : Nat
  deriving Repr, DecidableEq, Inhabited

namespace Snapshot

/-- Number of members of a room that is listed. -/
def members? (snapshot : Snapshot) (room : String) : Option Nat := snapshot.rooms.lookup room

end Snapshot

/-- Room membership. -/
structure Registry where
  rooms : Std.ExtTreeMap String Members := ∅
  index : Std.ExtTreeMap ClientId String := ∅

namespace Registry

/-- Room that a client is in. -/
def roomOf? (registry : Registry) (client : ClientId) : Option String := registry.index[client]?

/-- Number of members of a room; none if it does not exist. -/
def members (registry : Registry) (room : String) : Nat :=
  match registry.rooms[room]? with
  | some members => members.size
  | none => 0

def containsRoom (registry : Registry) (room : String) : Bool := registry.rooms.contains room

def roomCount (registry : Registry) : Nat := registry.rooms.size

def clientCount (registry : Registry) : Nat := registry.index.size

/-- The registry at this moment. -/
def snapshot (registry : Registry) : Snapshot where
  rooms := registry.rooms.toList.map fun (room, members) => (room, members.size)
  clients := registry.clientCount

/-- Every handle in the registry, room by room. -/
def handles (registry : Registry) : List Handle :=
  registry.rooms.toList.flatMap fun (_, members) => members.toList.map Prod.snd

/-- The rooms with the given members in one of them; a room without members does not exist. -/
def roomsWith (registry : Registry) (room : String) (members : Members) :
    Std.ExtTreeMap String Members :=
  if members.isEmpty then registry.rooms.erase room else registry.rooms.insert room members

/-- Take a client out of whichever room it is in. -/
def detach (registry : Registry) (client : ClientId) : Option (Handle × Departure) × Registry :=
  match registry.index[client]? with
  | none => (none, registry)
  | some room =>
    let index := registry.index.erase client
    match registry.rooms[room]? with
    | none => (none, { registry with index })
    | some members =>
      match members[client]? with
      | none => (none, { registry with index })
      | some handle =>
        let members := members.erase client
        (some (handle, { client, room, roomClosed := members.isEmpty }),
          { rooms := registry.roomsWith room members, index })

/-- Add a client to a room, taking it out of any other room first. An earlier handle of the same
    client is let go. -/
def join (registry : Registry) (room : String) (handle : Handle) :
    JoinOutcome × List Handle × Registry :=
  let elsewhere : Bool := match registry.index[handle.client]? with
    | some current => current != room
    | none => false
  let (left, registry) := if elsewhere then registry.detach handle.client else (none, registry)
  let members := (registry.rooms[room]?).getD ∅
  let replaced := members[handle.client]?
  ({ created := !registry.rooms.contains room
     added := replaced.isNone
     movedFrom := left.map Prod.snd },
    (left.map Prod.fst).toList ++ replaced.toList,
    { rooms := registry.rooms.insert room (members.insert handle.client handle)
      index := registry.index.insert handle.client room })

/-- Take a client out of whichever room it is in and let go of its handle. -/
def disconnect (registry : Registry) (client : ClientId) :
    Option Departure × List Handle × Registry :=
  let (left, registry) := registry.detach client
  (left.map Prod.snd, (left.map Prod.fst).toList, registry)

/-- Take a client out of a room; nothing happens unless it is in that room. -/
def leave (registry : Registry) (room : String) (client : ClientId) :
    Option Departure × List Handle × Registry :=
  if registry.roomOf? client = some room then registry.disconnect client
  else (none, [], registry)

/-- Move a registered client to another room, handle and all. Nothing comes of it for a client that
    is not registered, and a client that is there already stays untouched. -/
def switch (registry : Registry) (client : ClientId) (room : String) :
    Option JoinOutcome × List Handle × Registry :=
  if registry.index[client]? = some room then (some {}, [], registry)
  else
    match registry.detach client with
    | (none, registry) => (none, [], registry)
    | (some (handle, departure), registry) =>
      let (outcome, released, registry) := registry.join room handle
      (some { outcome with movedFrom := some departure }, released, registry)

/-- Offer a payload to the given members, one after the other. -/
def offerEach (payload : Bytes) : List (ClientId × Handle) → Queues → DeliveryReport × Queues
  | [], queues => ({}, queues)
  | (client, handle) :: rest, queues =>
    let (outcome, queues) := queues.offer handle.queue payload
    let (report, queues) := offerEach payload rest queues
    (report.note client outcome, queues)

/-- Offer a payload to every member of a room. Members whose queue refuses it are removed. -/
def deliver (registry : Registry) (room : String) (payload : Bytes) (queues : Queues) :
    DeliveryReport × List Handle × Registry × Queues :=
  match registry.rooms[room]? with
  | none => ({}, [], registry, queues)
  | some members =>
    let (report, queues) := offerEach payload members.toList queues
    let gone := report.removed
    let remaining := gone.foldl (fun members client => members.erase client) members
    let index := gone.foldl (fun index client => index.erase client) registry.index
    ({ report with roomClosed := remaining.isEmpty },
      gone.filterMap fun client => members[client]?,
      { rooms := registry.roomsWith room remaining, index },
      queues)

end Registry
end ChatRelay
