/-! # Channel names

Each room has one channel, named by a common start followed by the name of the room. The naming
gives the channel of a room, the pattern that an instance subscribes to, and the room of a channel.
-/

namespace ChatRelay

/-- What is left of `text` after `start`, if it begins with it. -/
def dropStart? : (start text : List Char) → Option (List Char)
  | [], text => some text
  | _ :: _, [] => none
  | a :: start, b :: text => if a = b then dropStart? start text else none

/-- A text begins with `start` exactly when it is `start` followed by something. -/
theorem dropStart?_eq_some_iff {start text rest : List Char} :
    dropStart? start text = some rest ↔ text = start ++ rest := by
  induction start generalizing text with
  | nil => simp [dropStart?, eq_comm]
  | cons a start ih =>
    cases text with
    | nil => simp [dropStart?]
    | cons b text =>
      simp only [dropStart?, List.cons_append, List.cons.injEq]
      split
      · next h => simp [ih, h]
      · next h =>
        simp only [reduceCtorEq, false_iff, not_and]
        exact fun h' => absurd h'.symm h

/-- How rooms are named as channels. -/
structure ChannelNaming where
  /-- What every channel name begins with. -/
  start : String
  deriving Repr, DecidableEq

namespace ChannelNaming

/-- The naming that is used where none is configured. -/
def default : ChannelNaming := ⟨"chat:"⟩

/-- The channel of a room. -/
def channel (naming : ChannelNaming) (room : String) : String := naming.start ++ room

/-- The pattern that an instance subscribes to. -/
def pattern (naming : ChannelNaming) : String := naming.start ++ "*"

/-- The room of a channel, if the channel belongs to this naming. -/
def room? (naming : ChannelNaming) (channel : String) : Option String :=
  (dropStart? naming.start.toList channel.toList).map String.ofList

/-- A channel belongs to a room exactly when it is the channel of that room. -/
theorem room?_eq_some_iff {naming : ChannelNaming} {channel room : String} :
    naming.room? channel = some room ↔ channel = naming.channel room := by
  simp only [room?, Option.map_eq_some_iff, dropStart?_eq_some_iff, ChannelNaming.channel]
  constructor
  · rintro ⟨rest, h, rfl⟩
    apply String.ext; simp [h]
  · intro h
    exact ⟨room.toList, by simp [h], by simp⟩

end ChannelNaming
end ChatRelay
