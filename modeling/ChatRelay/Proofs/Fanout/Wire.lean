import ChatRelay.Fanout.Inbound
import Mathlib

/-! # What the wire carries

An envelope that was written is read back, whatever follows it. On the channel of a room it becomes
a broadcast for that room on every instance but the one that wrote it.
-/

namespace ChatRelay

namespace Bytes

theorem ofLittleEndian_littleEndian (width n : Nat) :
    ofLittleEndian (littleEndian width n) = n % 256 ^ width := by
  induction width generalizing n with
  | zero => simp [littleEndian, ofLittleEndian, Nat.mod_one]
  | succ width ih =>
      simp only [littleEndian, ofLittleEndian, ih, UInt8.toNat_ofNat', Nat.mod_mod]
      rw [Nat.pow_succ', Nat.mod_mul]

theorem split?_append {count : Nat} {front : Bytes} (exact : front.length = count) (rest : Bytes) :
    split? count (front ++ rest) = some (front, rest) := by
  subst exact
  simp [split?]

end Bytes

namespace Wire

theorem length?_lengthWord {n : Nat} (fits : n < 2 ^ 64) (rest : Bytes) :
    length? (lengthWord n ++ rest) = some (n, rest) := by
  have small : n < 256 ^ 8 := Nat.lt_of_lt_of_le fits (by decide)
  simp only [length?, lengthWord, Bytes.split?_append (Bytes.length_littleEndian 8 n),
    Option.map_some, Bytes.ofLittleEndian_littleEndian, Nat.mod_eq_of_lt small]

theorem decodePayload_append {payload : Bytes} (fits : payload.length < 2 ^ 64) (rest : Bytes) :
    decodePayload (lengthWord payload.length ++ payload ++ rest) = .ok payload := by
  simp only [decodePayload, List.append_assoc, length?_lengthWord fits, Bytes.split?_append rfl]

/-- An envelope is read back, whatever follows it. -/
theorem decode_encode (origin : InstanceId) {payload : Bytes} (fits : payload.length < 2 ^ 64)
    (rest : Bytes) : decode (encode origin payload ++ rest) = .ok (origin, payload) := by
  have read : InstanceId.ofBytes? origin.octets = some origin := by
    simp [InstanceId.ofBytes?, origin.length_octets]
  have front : encode origin payload ++ rest = lengthWord 16 ++ (origin.octets ++
      (lengthWord payload.length ++ payload ++ rest)) := by
    simp only [encode, List.append_assoc]
  simp only [decode, front, length?_lengthWord (by decide : 16 < 2 ^ 64),
    Bytes.split?_append origin.length_octets, read, decodePayload_append fits]
  rfl

end Wire

/-- What an instance makes of an envelope on the channel of a room. -/
theorem acceptInbound_encode (self origin : InstanceId) (naming : ChannelNaming) (room : String)
    {payload : Bytes} (fits : payload.length < 2 ^ 64) :
    acceptInbound self naming (naming.channel room) (Wire.encode origin payload) =
      .ok (if origin = self then none else some { room, payload, origin := .instance origin }) := by
  have found : naming.room? (naming.channel room) = some room :=
    ChannelNaming.room?_eq_some_iff.mpr rfl
  have read := Wire.decode_encode origin fits []
  rw [List.append_nil] at read
  simp only [acceptInbound, found, read]
  split <;> rfl

end ChatRelay
