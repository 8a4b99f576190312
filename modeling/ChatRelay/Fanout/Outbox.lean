import ChatRelay.Bytes

/-! # The outbox

Where a hub hands local broadcasts for other instances. The outbox never makes the hub wait: a
payload for which there is no room is refused at once and counted.
-/

namespace ChatRelay

/-- Broadcasts on their way to other instances. -/
structure Outbox where
  /-- Most broadcasts that wait; any number may if nothing is given. -/
  limit : Option Nat := none
  /-- Room and payload of each accepted broadcast that was not taken out, oldest first. -/
  waiting : List (String × Bytes) := []
  /-- Number of refused broadcasts. -/
  refused : Nat := 0
  /-- Whether there is somebody to take broadcasts out. -/
  attended : Bool := true
  deriving Repr, DecidableEq

namespace Outbox

/-- An outbox with room for at least one broadcast. -/
def ofCapacity (capacity : Nat) : Outbox := { limit := some (max capacity 1) }

/-- Whether the next broadcast is accepted. -/
def accepts (outbox : Outbox) : Bool :=
  outbox.attended &&
    match outbox.limit with
    | some limit => outbox.waiting.length < limit
    | none => true

/-- Hand in a broadcast. -/
def offer (outbox : Outbox) (room : String) (payload : Bytes) : Bool × Outbox :=
  if outbox.accepts then
    (true, { outbox with waiting := outbox.waiting ++ [(room, payload)] })
  else (false, { outbox with refused := outbox.refused + 1 })

/-- Hand in broadcasts for one room, one after the other. -/
def offerAll (room : String) : List Bytes → Outbox → List Bool × Outbox
  | [], outbox => ([], outbox)
  | payload :: rest, outbox =>
    let (accepted, outbox) := outbox.offer room payload
    let (later, outbox) := offerAll room rest outbox
    (accepted :: later, outbox)

/-- Take out the oldest broadcasts, at most `count` of them. -/
def take (outbox : Outbox) (count : Nat) : List (String × Bytes) × Outbox :=
  (outbox.waiting.take count, { outbox with waiting := outbox.waiting.drop count })

/-- Nobody takes anything out from now on, and what waits is lost. -/
def abandon (outbox : Outbox) : Outbox := { outbox with waiting := [], attended := false }

end Outbox
end ChatRelay
