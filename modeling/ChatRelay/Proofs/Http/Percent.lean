import ChatRelay.Http.Percent
import ChatRelay.Http.Route
import ChatRelay.Proofs.Text.RoundTrip

/-! # Names in paths

A name can be written into the path of a request in more than one way. What counts is that it has no
slash and that it is the name once percent encoding is undone; `percentEncode` is one such way.
-/

namespace ChatRelay.Http

/-- The segment of a path stands for the room. -/
structure Names (segment : Bytes) (room : String) : Prop where
  single : 0x2F ∉ segment
  decoded : percentDecode segment = Utf8.ofString room

theorem percentDecode_cons {b : UInt8} (plain : b ≠ 0x25) (rest : Bytes) :
    percentDecode (b :: rest) = b :: percentDecode rest := by
  rw [percentDecode]
  rintro a c later same -
  exact plain same

theorem hexByte?_hexDigitByte {n : Nat} (small : n < 16) : hexByte? (hexDigitByte n) = some n := by
  have all : ∀ n < 16, hexByte? (hexDigitByte n) = some n := by decide
  exact all n small

theorem percentDecode_percentEncodeByte (b : UInt8) (rest : Bytes) :
    percentDecode (percentEncodeByte b ++ rest) = b :: percentDecode rest := by
  unfold percentEncodeByte
  split
  · next unreserved =>
      have plain : b ≠ 0x25 := by
        rintro rfl
        revert unreserved
        decide
      exact percentDecode_cons plain rest
  · have size := b.toNat_lt
    have same : UInt8.ofNat (16 * (b.toNat / 16) + b.toNat % 16) = b := by
      rw [Nat.div_add_mod, UInt8.ofNat_toNat]
    simp only [List.cons_append, List.nil_append, percentDecode,
      hexByte?_hexDigitByte (show b.toNat / 16 < 16 by omega),
      hexByte?_hexDigitByte (show b.toNat % 16 < 16 by omega), same]

/-- What was encoded is what it was after decoding. -/
theorem percentDecode_percentEncode (data : Bytes) : percentDecode (percentEncode data) = data := by
  induction data with
  | nil => rfl
  | cons b data ih =>
      rw [percentEncode, List.flatMap_cons, percentDecode_percentEncodeByte]
      exact congrArg (b :: ·) ih

/-- The bytes that encoding leaves: they are characters of ASCII and mean nothing in a path. -/
theorem mem_percentEncode {data : Bytes} {b : UInt8} (member : b ∈ percentEncode data) :
    isUnreserved b = true ∨ b = 0x25 := by
  obtain ⟨c, -, member⟩ := List.mem_flatMap.mp member
  unfold percentEncodeByte at member
  split at member
  · next unreserved =>
      rw [List.mem_singleton.mp member]
      exact .inl unreserved
  · have digits : ∀ n < 16, isUnreserved (hexDigitByte n) = true := by decide
    have size := c.toNat_lt
    simp only [List.mem_cons, List.not_mem_nil, or_false] at member
    rcases member with rfl | rfl | rfl
    · exact .inr rfl
    · exact .inl (digits _ (by omega))
    · exact .inl (digits _ (by omega))

theorem percentEncode_names (room : String) : Names (percentEncode (Utf8.ofString room)) room where
  single slash := by
    rcases mem_percentEncode slash with unreserved | percent
    · revert unreserved
      decide
    · revert percent
      decide
  decoded := percentDecode_percentEncode _

theorem Names.ne_nil {segment : Bytes} {room : String} (names : Names segment room)
    (named : room ≠ "") : segment ≠ [] := by
  rintro rfl
  apply named
  apply Utf8.ofString_injective
  rw [← names.decoded]
  rfl

namespace Route

/-- The path of all rooms. -/
def roomsPath : Bytes := Utf8.ofString rooms.template

/-- The path of a room. -/
def roomPath (segment : Bytes) : Bytes := roomStart ++ segment

theorem ofPath?_roomsPath : ofPath? roomsPath = some .rooms := by decide

theorem ofPath?_roomPath {segment : Bytes} (filled : segment ≠ []) (single : 0x2F ∉ segment) :
    ofPath? (roomPath segment) = some (.room segment) := by
  have start : roomStart.isPrefixOf (roomPath segment) = true :=
    List.isPrefixOf_iff_prefix.mpr (List.prefix_append ..)
  have other : fixed.find? (fun route => Utf8.ofString route.template == roomPath segment) =
      none := by
    have none : ∀ route ∈ fixed, roomStart.isPrefixOf (Utf8.ofString route.template) = false := by
      decide
    rw [List.find?_eq_none]
    intro route member same
    have apart := none route member
    rw [eq_of_beq same, start] at apart
    cases apart
  have rest : (roomPath segment).drop roomStart.length = segment := List.drop_left ..
  unfold ofPath?
  rw [other]
  simp [rest, start, filled, single]

end Route

end ChatRelay.Http
