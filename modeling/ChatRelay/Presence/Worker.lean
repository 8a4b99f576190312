import ChatRelay.Presence.Reading
import ChatRelay.Redis.Store

/-! # Presence in Redis

Presence that all instances share: a set of the active rooms and a hash of their member counts.
Changes wait in a bounded queue, and a worker carries them out one after the other: a join is one
exchange with Redis, a departure is one that counts and, where the count has dropped to zero or
below, a second one that removes the room. A change whose exchange fails is lost.
-/

namespace ChatRelay

/-- Where presence is kept. -/
structure PresenceKeys where
  /-- Key of the set of active rooms. -/
  rooms : Bytes
  /-- Key of the hash of member counts. -/
  members : Bytes
  deriving Repr, DecidableEq

namespace PresenceKeys

/-- The first exchange of a change. -/
def commands (keys : PresenceKeys) : PresenceChange → List Redis.Command
  | .joined room =>
    [.sadd keys.rooms (Utf8.ofString room), .hincrby keys.members (Utf8.ofString room) 1]
  | .left room => [.hincrby keys.members (Utf8.ofString room) (-1)]

/-- The exchange that removes a room. -/
def purge (keys : PresenceKeys) (room : String) : List Redis.Command :=
  [.hdel keys.members (Utf8.ofString room), .srem keys.rooms (Utf8.ofString room)]

/-- The exchange that reads presence. -/
def survey (keys : PresenceKeys) : List Redis.Command :=
  [.smembers keys.rooms, .hgetall keys.members]

end PresenceKeys

/-- Counts by room, if every room is valid text and every count an integer. -/
def readCounts? : List (Bytes × Bytes) → Option (List (String × Int))
  | [] => some []
  | (room, count) :: rest => do
    return (← Utf8.toString? room, ← Redis.integer? count) :: (← readCounts? rest)

/-- Names in ascending order. -/
def sortNames (names : List String) : List String :=
  names.mergeSort fun a b => (compare a b).isLE

/-- The active rooms that the answers to a survey tell of, with zero for a room without a count.
    Redis lists rooms and counts in no particular order; the rooms are sorted here. -/
def readSurvey? : List Redis.Reply → Option (List RoomPresence)
  | [.elements rooms, .fields counts] => do
    let rooms ← rooms.mapM Utf8.toString?
    let counts ← readCounts? counts
    let counts : Std.ExtTreeMap String Int := .ofList counts
    return (sortNames rooms).map fun room => ⟨room, counts[room]?.getD 0⟩
  | _ => none

/-- What the worker is doing. -/
inductive PresencePhase where
  | idle
  /-- The first exchange of a change is under way. -/
  | applying (change : PresenceChange)
  /-- A room is being removed. -/
  | purging (room : String)
  deriving Repr, DecidableEq

/-- The worker and its queue. -/
structure PresenceWorker where
  /-- Most changes that wait. -/
  limit : Nat
  /-- Changes that wait, oldest first. -/
  queue : List PresenceChange := []
  phase : PresencePhase := .idle
  /-- Whether the worker still takes changes. -/
  running : Bool := true
  deriving Repr, DecidableEq

namespace PresenceWorker

/-- A worker whose queue has room for at least one change. -/
def ofCapacity (capacity : Nat) : PresenceWorker := { limit := max capacity 1 }

/-- Record a change; one for which there is no room is lost. -/
def record (worker : PresenceWorker) (change : PresenceChange) : PresenceWorker :=
  if worker.running && worker.queue.length < worker.limit then
    { worker with queue := worker.queue ++ [change] }
  else worker

/-- Begin with the oldest change, if nothing is under way. -/
def begin (worker : PresenceWorker) : PresenceWorker :=
  match worker.phase, worker.queue with
  | .idle, change :: rest => { worker with phase := .applying change, queue := rest }
  | _, _ => worker

/-- The commands of the exchange under way. -/
def commands (worker : PresenceWorker) (keys : PresenceKeys) : List Redis.Command :=
  match worker.phase with
  | .idle => []
  | .applying change => keys.commands change
  | .purging room => keys.purge room

/-- The exchange under way is over; nothing is given if it failed. -/
def settle (worker : PresenceWorker) (replies : Option (List Redis.Reply)) : PresenceWorker :=
  match worker.phase, replies with
  | .applying (.left room), some [.integer count] =>
    { worker with
      phase := if PresenceLedger.shouldPurge count then .purging room else .idle }
  | _, _ => { worker with phase := .idle }

/-- Stop the worker; what waits or is under way is lost. -/
def stop (worker : PresenceWorker) : PresenceWorker :=
  { worker with queue := [], phase := .idle, running := false }

/-- Whether nothing is left to do. -/
def isIdle (worker : PresenceWorker) : Bool :=
  worker.phase = .idle && worker.queue.isEmpty

end PresenceWorker
end ChatRelay
