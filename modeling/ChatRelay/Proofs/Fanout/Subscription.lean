import ChatRelay.Config.SettingsFile
import ChatRelay.Fanout.Subscriber
import ChatRelay.Proofs.Fanout.Acceptance
import ChatRelay.Proofs.Redis.Patterns
import ChatRelay.Proofs.Text.Exchange

/-! # What the subscription delivers

The server passes on a message exactly if the pattern that an instance subscribes to stands for its
channel, while the instance takes a channel for one of a room exactly if it begins with the common
start. The two agree exactly for starts without a character that has a meaning in patterns.
-/

namespace ChatRelay

open Redis

namespace ChannelNaming

/-- Whether the server passes on to the instance what is published on a channel. -/
def hears (naming : ChannelNaming) (channel : String) : Bool :=
  Glob.matchesText (Utf8.ofString naming.pattern) (Utf8.ofString channel)

/-- The characters with a meaning of their own in patterns. -/
def patternMarks : List Char := ['*', '?', '[', '\\']

/-- No character of the common start has a meaning in patterns. -/
def Plain (naming : ChannelNaming) : Prop := ∀ c ∈ naming.start.toList, c ∉ patternMarks

instance (naming : ChannelNaming) : Decidable naming.Plain :=
  List.decidableBAll (· ∉ patternMarks) naming.start.toList

theorem ofString_pattern (naming : ChannelNaming) :
    Utf8.ofString naming.pattern = Utf8.ofString naming.start ++ [0x2A] := by
  rw [pattern, Utf8.ofString_append]
  rfl

/-- A character has a special byte exactly if it has a meaning in patterns. -/
theorem exists_special_iff {c : Char} :
    (∃ b ∈ Utf8.encodeChar c, b ∈ Glob.specials) ↔ c ∈ patternMarks := by
  constructor
  · rintro ⟨b, member, special⟩
    rcases Utf8.mem_encodeChar member with high | ⟨low, rfl⟩
    · simp only [Glob.specials, List.mem_cons, List.not_mem_nil, or_false] at special
      rcases special with rfl | rfl | rfl | rfl <;> exact absurd high (by decide)
    · have code {b : UInt8} {mark : Char} (same : UInt8.ofNat c.toNat = b)
          (means : Char.ofNat b.toNat = mark) : c = mark := by
        have value := congrArg UInt8.toNat same
        rw [UInt8.toNat_ofNat', Nat.mod_eq_of_lt (by omega)] at value
        rw [← means, ← value, Char.ofNat_toNat]
      simp only [Glob.specials, List.mem_cons, List.not_mem_nil, or_false] at special
      simp only [patternMarks, List.mem_cons, List.not_mem_nil, or_false]
      exact special.imp (code · rfl) (.imp (code · rfl) (.imp (code · rfl) (code · rfl)))
  · intro mark
    simp only [patternMarks, List.mem_cons, List.not_mem_nil, or_false] at mark
    rcases mark with rfl | rfl | rfl | rfl <;> decide

theorem plain_iff {naming : ChannelNaming} :
    naming.Plain ↔ ∀ b ∈ Utf8.ofString naming.start, b ∉ Glob.specials := by
  simp only [Plain, ← exists_special_iff, Utf8.ofString, Utf8.encode, List.mem_flatMap]
  constructor
  · rintro plain b ⟨c, member, there⟩ special
    exact plain c member ⟨b, there, special⟩
  · rintro plain c member ⟨b, there, special⟩
    exact plain b ⟨c, member, there⟩ special

variable {naming : ChannelNaming}

theorem isSome_room?_iff {channel : String} :
    (naming.room? channel).isSome = true ↔ ∃ room, channel = naming.channel room := by
  simp only [Option.isSome_iff_exists, room?_eq_some_iff]

theorem Plain.hears_iff (plain : naming.Plain) {channel : String} :
    naming.hears channel = true ↔ ∃ room, channel = naming.channel room := by
  rw [hears, ofString_pattern, Glob.matchesText_literal (plain_iff.mp plain)]
  exact Utf8.ofString_prefix_iff

/-- If the pattern stands for the channels of the rooms only, and for that of the room without a
    name, then it has no marks but its last one. -/
theorem plain_of_hears (unnamed : naming.hears (naming.channel "") = true)
    (only : ∀ channel, naming.hears channel = true → ∃ room, channel = naming.channel room) :
    naming.Plain := by
  rw [plain_iff]
  by_contra marked
  push Not at marked
  have start : naming.channel "" = naming.start := String.append_empty
  rw [start, hears, ofString_pattern] at unnamed
  obtain ⟨before, byte, after, cut, fit⟩ := Glob.loose_of_special marked unnamed
  obtain ⟨stranger, byte', other, bytes⟩ := Utf8.exists_ofString_exchanged cut
  obtain ⟨room, rfl⟩ : ∃ room, stranger = naming.channel room := by
    apply only
    rw [hears, ofString_pattern, Glob.matchesText, bytes]
    exact fit byte'
  -- The stranger is as long as the start, so that it is the start if it begins with it.
  rw [channel, Utf8.ofString_append, cut, List.append_assoc] at bytes
  have tails := List.append_cancel_left bytes
  exact other (List.cons.inj tails).1.symm

end ChannelNaming

/-- A message on the channel of a room counts as malformed only for its data. -/
theorem Subscriber.malformed_receive {subscriber : Subscriber} {self : InstanceId}
    {naming : ChannelNaming} {room : String} {data : Bytes}
    (counted : (subscriber.receive self naming (naming.channel room) data).malformed ≠
      subscriber.malformed) : ∃ fault, Wire.decode data = .error fault := by
  unfold receive at counted
  rw [acceptInbound_channel] at counted
  cases read : Wire.decode data with
  | error fault => exact ⟨fault, rfl⟩
  | ok envelope =>
      rw [read] at counted
      dsimp only at counted
      split at counted
      · split at counted <;> simp_all
      · exact absurd rfl counted

/-- The pattern stands for exactly the channels of the rooms if and only if the common start has no
    character with a meaning in patterns. Then the messages for all rooms arrive, and one that
    arrives counts as malformed only if it holds no envelope. -/
theorem subscription_is_exact_iff_plain (naming : ChannelNaming) :
    ((∀ channel, naming.hears channel = (naming.room? channel).isSome) ↔ naming.Plain) ∧
    (naming.Plain → (∀ room, naming.hears (naming.channel room) = true) ∧
      ∀ (subscriber : Subscriber) self channel data, naming.hears channel = true →
        (subscriber.receive self naming channel data).malformed ≠ subscriber.malformed →
          ∃ fault, Wire.decode data = .error fault) := by
  refine ⟨⟨fun exact => ?_, fun plain channel => ?_⟩, fun plain => ⟨fun room => ?_, ?_⟩⟩
  · apply ChannelNaming.plain_of_hears
    · rw [exact]
      exact ChannelNaming.isSome_room?_iff.mpr ⟨"", rfl⟩
    · intro channel heard
      rw [exact] at heard
      exact ChannelNaming.isSome_room?_iff.mp heard
  · rw [Bool.eq_iff_iff, plain.hears_iff, ChannelNaming.isSome_room?_iff]
  · exact plain.hears_iff.mpr ⟨room, rfl⟩
  · intro subscriber self channel data heard counted
    obtain ⟨room, rfl⟩ := plain.hears_iff.mp heard
    exact Subscriber.malformed_receive counted

/-- Marks in the names of rooms do no harm. -/
theorem subscription_is_exact_iff_plain_default :
    let naming := ChannelNaming.default
    naming.Plain ∧ naming.hears (naming.channel "[*") = true ∧ naming.hears "news:R" = false := by
  intro naming
  obtain ⟨exact_iff, arrives⟩ := subscription_is_exact_iff_plain naming
  have plain : naming.Plain := by decide
  have strange : (naming.room? "news:R").isSome = false := by decide
  exact ⟨plain, (arrives plain).1 "[*", (exact_iff.mpr plain "news:R").trans strange⟩

/-- With brackets in the common start the messages for the rooms do not arrive, and others do. -/
theorem bracketed_start_misses_its_rooms :
    (Settings.ofText? "[redis]\nchannel_prefix = \"chat[1]:\"".toList).map (·.redis.naming) =
        some ⟨"chat[1]:"⟩ ∧
      let naming : ChannelNaming := ⟨"chat[1]:"⟩
      naming.room? (naming.channel "R") = some "R" ∧ naming.hears (naming.channel "R") = false ∧
        naming.room? "chat1:R" = none ∧ naming.hears "chat1:R" = true := by
  decide +kernel

end ChatRelay
