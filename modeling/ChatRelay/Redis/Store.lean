import ChatRelay.Bytes
import ChatRelay.Text.Digits
import ChatRelay.Text.Utf8
import Std.Data.ExtTreeMap
import Std.Data.ExtTreeSet

/-! # What Redis keeps

The part of Redis that presence and the bridge use: sets, hashes whose fields may hold integers, and
publication. Commands are carried out one at a time. Elements and fields are listed ascending here;
Redis itself promises no order, and nothing may depend on it.
-/

namespace ChatRelay.Redis

/-- A command. -/
inductive Command where
  /-- Add to a set. -/
  | sadd (key member : Bytes)
  /-- Remove from a set. -/
  | srem (key member : Bytes)
  /-- The elements of a set. -/
  | smembers (key : Bytes)
  /-- Add to the integer in a field of a hash; an absent field holds zero. -/
  | hincrby (key field : Bytes) (amount : Int)
  /-- Remove a field of a hash. -/
  | hdel (key field : Bytes)
  /-- The fields of a hash and their values. -/
  | hgetall (key : Bytes)
  /-- Send data to the subscribers of a channel. -/
  | publish (channel data : Bytes)
  deriving Repr, DecidableEq

/-- What Redis answers to a command. -/
inductive Reply where
  | integer (n : Int)
  | elements (all : List Bytes)
  | fields (all : List (Bytes × Bytes))
  | fault (text : String)
  deriving Repr, DecidableEq

/-- Replies that tell the same, in whatever order they list it. -/
def Reply.Reordered : Reply → Reply → Prop
  | .elements all, .elements others => all.Perm others
  | .fields all, .fields others => all.Perm others
  | reply, other => reply = other

instance : DecidableRel Reply.Reordered
  | .elements all, .elements others => inferInstanceAs (Decidable (all.Perm others))
  | .fields all, .fields others => inferInstanceAs (Decidable (all.Perm others))
  | .integer _, _ | .fault _, _ => inferInstanceAs (Decidable (_ = _))
  | .elements _, .integer _ | .elements _, .fields _ | .elements _, .fault _
  | .fields _, .integer _ | .fields _, .elements _ | .fields _, .fault _ =>
    inferInstanceAs (Decidable (_ = _))

/-- The sets and hashes by their keys. A key keeps its place when its last element is removed. -/
structure Store where
  sets : Std.ExtTreeMap Bytes (Std.ExtTreeSet Bytes) := ∅
  hashes : Std.ExtTreeMap Bytes (Std.ExtTreeMap Bytes Bytes) := ∅

/-- The integer that a value holds. -/
def integer? (value : Bytes) : Option Int :=
  ((Utf8.decode? value).bind Text.integer?).filter Text.isWord

/-- An integer as a value. -/
def ofInteger (n : Int) : Bytes :=
  if n < 0 then 0x2D :: Utf8.encode (Nat.toDigits 10 n.natAbs)
  else Utf8.encode (Nat.toDigits 10 n.natAbs)

namespace Store

/-- The elements of a set. -/
def set (store : Store) (key : Bytes) : Std.ExtTreeSet Bytes := store.sets.getD key ∅

/-- The fields of a hash. -/
def hash (store : Store) (key : Bytes) : Std.ExtTreeMap Bytes Bytes := store.hashes.getD key ∅

/-- Put elements into a set. -/
def addMembers (store : Store) (key : Bytes) (members : List Bytes) : Store :=
  { store with sets := store.sets.insert key (members.foldl .insert (store.set key)) }

/-- Give fields of a hash their values. -/
def setFields (store : Store) (key : Bytes) (fields : List (Bytes × Bytes)) : Store :=
  { store with
    hashes := store.hashes.insert key
      (fields.foldl (fun hash (field, value) => hash.insert field value) (store.hash key)) }

/-- Add to the integer in a field. -/
def increment (store : Store) (key field : Bytes) (amount : Int) : Reply × Store :=
  match (match (store.hash key)[field]? with | some value => integer? value | none => some 0) with
  | none => (.fault "ERR hash value is not an integer", store)
  | some n =>
    if Text.isWord (n + amount) then
      (.integer (n + amount), store.setFields key [(field, ofInteger (n + amount))])
    else (.fault "ERR increment or decrement would overflow", store)

/-- Carry out one command. Nobody is subscribed here, so publications reach no one. -/
def run (store : Store) : Command → Reply × Store
  | .sadd key member =>
    (.integer (if (store.set key).contains member then 0 else 1), store.addMembers key [member])
  | .srem key member =>
    (.integer (if (store.set key).contains member then 1 else 0),
      { store with sets := store.sets.insert key ((store.set key).erase member) })
  | .smembers key => (.elements (store.set key).toList, store)
  | .hincrby key field amount => store.increment key field amount
  | .hdel key field =>
    (.integer (if (store.hash key).contains field then 1 else 0),
      { store with hashes := store.hashes.insert key ((store.hash key).erase field) })
  | .hgetall key => (.fields (store.hash key).toList, store)
  | .publish _ _ => (.integer 0, store)

/-- Carry out commands in order. -/
def runAll : List Command → Store → List Reply × Store
  | [], store => ([], store)
  | command :: rest, store =>
    let (reply, store) := store.run command
    let (later, store) := runAll rest store
    (reply :: later, store)

end Store
end ChatRelay.Redis
