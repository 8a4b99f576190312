import ChatRelay.Proofs.Fanout.Wire
import ChatRelay.Proofs.Text.RoundTrip

/-! # The format of wire envelopes

`Wire.Reading` lists what a byte string can look like to a reader of envelopes, each form with what
becomes of it: the whole envelope with anything after it, or the place where it breaks off. Reading
is decided by the form, and every byte string has exactly one.
-/

namespace ChatRelay

namespace Bytes

theorem littleEndian_ofLittleEndian (word : Bytes) :
    littleEndian word.length (ofLittleEndian word) = word := by
  induction word with
  | nil => rfl
  | cons byte word ih =>
      have small : byte.toNat < 256 := byte.toNat_lt
      have low : (byte.toNat + 256 * ofLittleEndian word) % 256 = byte.toNat := by omega
      have high : (byte.toNat + 256 * ofLittleEndian word) / 256 = ofLittleEndian word := by omega
      simp only [List.length_cons, ofLittleEndian, littleEndian, low, high, ih, UInt8.ofNat_toNat]

theorem ofLittleEndian_lt (word : Bytes) : ofLittleEndian word < 256 ^ word.length := by
  induction word with
  | nil => decide
  | cons byte word ih =>
      have small : byte.toNat < 256 := byte.toNat_lt
      simp only [ofLittleEndian, List.length_cons, Nat.pow_succ]
      omega

/-- Each byte of a word, least significant first. -/
theorem littleEndian_eq_map (width n : Nat) :
    littleEndian width n = (List.range width).map fun place => UInt8.ofNat (n / 256 ^ place) := by
  induction width generalizing n with
  | zero => rfl
  | succ width ih =>
      have first : UInt8.ofNat (n % 256) = UInt8.ofNat n := by
        apply UInt8.toNat_inj.mp
        simp
      simp only [littleEndian, ih, List.range_succ_eq_map, List.map_cons, List.map_map, first,
        Nat.pow_zero, Nat.div_one]
      congr 1
      apply List.map_congr_left
      intro place _
      simp only [Function.comp_apply, Nat.pow_succ', Nat.div_div_eq_div_mul]

theorem split?_eq_some_iff {count : Nat} {data front rest : Bytes} :
    split? count data = some (front, rest) ↔ front.length = count ∧ data = front ++ rest := by
  constructor
  · intro cut
    unfold split? at cut
    split at cut
    · next enough =>
        cases cut
        exact ⟨List.length_take_of_le enough, (List.take_append_drop count data).symm⟩
    · cases cut
  · rintro ⟨exact_length, rfl⟩
    exact split?_append exact_length rest

theorem split?_eq_none_iff {count : Nat} {data : Bytes} :
    split? count data = none ↔ data.length < count := by
  simp [split?]

end Bytes

namespace Wire

theorem length?_eq_some_iff {data rest : Bytes} {n : Nat} :
    length? data = some (n, rest) ↔ n < 2 ^ 64 ∧ data = lengthWord n ++ rest := by
  constructor
  · intro read
    obtain ⟨⟨word, left⟩, cut, same⟩ := Option.map_eq_some_iff.mp read
    cases same
    obtain ⟨width, rfl⟩ := Bytes.split?_eq_some_iff.mp cut
    have fits := Bytes.ofLittleEndian_lt word
    have back := Bytes.littleEndian_ofLittleEndian word
    rw [width] at fits back
    refine ⟨Nat.lt_of_lt_of_eq fits (by decide), ?_⟩
    rw [lengthWord, back]
  · rintro ⟨fits, rfl⟩
    exact length?_lengthWord fits rest

theorem length?_eq_none_iff {data : Bytes} : length? data = none ↔ data.length < 8 := by
  rw [length?, Option.map_eq_none_iff, Bytes.split?_eq_none_iff]

theorem ofBytes?_eq_some_iff {octets : Bytes} {origin : InstanceId} :
    InstanceId.ofBytes? octets = some origin ↔ octets = origin.octets := by
  constructor
  · intro read
    unfold InstanceId.ofBytes? at read
    split at read <;> cases read
    rfl
  · rintro rfl
    simp [InstanceId.ofBytes?, origin.length_octets]

theorem ofBytes?_eq_none_iff {octets : Bytes} :
    InstanceId.ofBytes? octets = none ↔ octets.length ≠ 16 := by
  simp [InstanceId.ofBytes?]

/-- The forms of a byte string and what a reader makes of each. -/
inductive Reading : Bytes → Except Fault (InstanceId × Bytes) → Prop where
  | whole (origin : InstanceId) (payload rest : Bytes) (fits : payload.length < 2 ^ 64) :
      Reading (encode origin payload ++ rest) (.ok (origin, payload))
  | noOriginLength (data : Bytes) (short : data.length < 8) : Reading data (.error .truncated)
  | originShort (size : Nat) (part : Bytes) (fits : size < 2 ^ 64) (short : part.length < size) :
      Reading (lengthWord size ++ part) (.error .shortOrigin)
  | originForeign (octets rest : Bytes) (fits : octets.length < 2 ^ 64)
      (other : octets.length ≠ 16) :
      Reading (lengthWord octets.length ++ octets ++ rest) (.error (.originLength octets.length))
  | noPayloadLength (origin : InstanceId) (part : Bytes) (short : part.length < 8) :
      Reading (lengthWord 16 ++ origin.octets ++ part) (.error .truncated)
  | payloadShort (origin : InstanceId) (size : Nat) (part : Bytes) (fits : size < 2 ^ 64)
      (short : part.length < size) :
      Reading (lengthWord 16 ++ origin.octets ++ lengthWord size ++ part) (.error .truncated)

/-- What follows the identifier decides about the payload. -/
theorem reading_decodePayload (origin : InstanceId) (data : Bytes) :
    Reading (lengthWord 16 ++ origin.octets ++ data) ((decodePayload data).map (origin, ·)) := by
  unfold decodePayload
  cases sized : length? data with
  | none => exact .noPayloadLength origin data (length?_eq_none_iff.mp sized)
  | some found =>
      obtain ⟨size, rest⟩ := found
      obtain ⟨fits, rfl⟩ := length?_eq_some_iff.mp sized
      cases cut : Bytes.split? size rest with
      | none =>
          simp only [cut, ← List.append_assoc]
          exact .payloadShort origin size rest fits (Bytes.split?_eq_none_iff.mp cut)
      | some parts =>
          obtain ⟨payload, left⟩ := parts
          obtain ⟨rfl, rfl⟩ := Bytes.split?_eq_some_iff.mp cut
          simp only [cut, ← List.append_assoc]
          exact .whole origin payload left fits

/-- Every byte string has a form, and reading does what the form says. -/
theorem reading_decode (data : Bytes) : Reading data (decode data) := by
  unfold decode
  cases sized : length? data with
  | none => exact .noOriginLength data (length?_eq_none_iff.mp sized)
  | some found =>
      obtain ⟨size, rest⟩ := found
      obtain ⟨fits, rfl⟩ := length?_eq_some_iff.mp sized
      cases cut : Bytes.split? size rest with
      | none =>
          simp only [cut]
          exact .originShort size rest fits (Bytes.split?_eq_none_iff.mp cut)
      | some parts =>
          obtain ⟨octets, left⟩ := parts
          obtain ⟨rfl, rfl⟩ := Bytes.split?_eq_some_iff.mp cut
          cases read : InstanceId.ofBytes? octets with
          | none =>
              simp only [cut, read, ← List.append_assoc]
              exact .originForeign octets left fits (ofBytes?_eq_none_iff.mp read)
          | some origin =>
              simp only [cut, read]
              rw [ofBytes?_eq_some_iff.mp read, origin.length_octets, ← List.append_assoc]
              exact reading_decodePayload origin left

/-- The form of a byte string decides what is read. -/
theorem Reading.decode_eq {data : Bytes} {outcome : Except Fault (InstanceId × Bytes)}
    (reading : Reading data outcome) : decode data = outcome := by
  have sixteen : 16 < 2 ^ 64 := by decide
  have identified (origin : InstanceId) :
      InstanceId.ofBytes? origin.octets = some origin := ofBytes?_eq_some_iff.mpr rfl
  cases reading with
  | whole origin payload rest fits => exact decode_encode origin fits rest
  | noOriginLength data short => rw [decode, length?_eq_none_iff.mpr short]
  | originShort size part fits short =>
      simp only [decode, length?_lengthWord fits, Bytes.split?_eq_none_iff.mpr short]
  | originForeign octets rest fits other =>
      simp only [decode, List.append_assoc, length?_lengthWord fits, Bytes.split?_append rfl,
        ofBytes?_eq_none_iff.mpr other]
  | noPayloadLength origin part short =>
      simp only [decode, List.append_assoc, length?_lengthWord sixteen,
        Bytes.split?_append origin.length_octets, identified, decodePayload,
        length?_eq_none_iff.mpr short]
      rfl
  | payloadShort origin size part fits short =>
      simp only [decode, List.append_assoc, length?_lengthWord sixteen,
        Bytes.split?_append origin.length_octets, identified, decodePayload,
        length?_lengthWord fits, Bytes.split?_eq_none_iff.mpr short]
      rfl

theorem reading_iff {data : Bytes} {outcome : Except Fault (InstanceId × Bytes)} :
    Reading data outcome ↔ decode data = outcome :=
  ⟨Reading.decode_eq, fun read => read ▸ reading_decode data⟩

/-- What is read is an envelope at the front, and nothing else is. -/
theorem decode_eq_ok_iff {data payload : Bytes} {origin : InstanceId} :
    decode data = .ok (origin, payload) ↔
      payload.length < 2 ^ 64 ∧ ∃ rest, data = encode origin payload ++ rest := by
  constructor
  · intro read
    cases reading_iff.mpr read with
    | whole _ _ rest fits => exact ⟨fits, rest, rfl⟩
  · rintro ⟨fits, rest, rfl⟩
    exact decode_encode origin fits rest

/-- An envelope byte by byte. -/
theorem encode_eq (origin : InstanceId) (payload : Bytes) :
    encode origin payload =
      [16, 0, 0, 0, 0, 0, 0, 0] ++ origin.octets ++
        (List.range 8).map (fun place => UInt8.ofNat (payload.length / 256 ^ place)) ++
          payload := by
  have sixteen : lengthWord 16 = [16, 0, 0, 0, 0, 0, 0, 0] := by decide
  rw [encode, sixteen, lengthWord, Bytes.littleEndian_eq_map]

/-- No envelope is the beginning of another. -/
theorem encode_append_inj {origin origin' : InstanceId} {payload payload' rest rest' : Bytes}
    (fits : payload.length < 2 ^ 64) (fits' : payload'.length < 2 ^ 64)
    (same : encode origin payload ++ rest = encode origin' payload' ++ rest') :
    origin = origin' ∧ payload = payload' ∧ rest = rest' := by
  have first := decode_encode origin fits rest
  have second := decode_encode origin' fits' rest'
  rw [same, second] at first
  cases first
  exact ⟨rfl, rfl, List.append_cancel_left same⟩

theorem Fault.message_originLength (n : Nat) : (Fault.originLength n).message.toList =
    "UUID parsing failed: invalid length: expected 16 bytes, found ".toList ++
      Nat.toDigits 10 n := by
  have text : (Fault.originLength n).message =
      "UUID parsing failed: invalid length: expected 16 bytes, found " ++ n.repr := rfl
  rw [text, String.toList_append, Nat.toList_repr]

/-- The words for a fault tell which one it is. -/
theorem Fault.message_injective {fault fault' : Fault} (same : fault.message = fault'.message) :
    fault = fault' := by
  have io (n : Nat) : (Fault.originLength n).message ≠ Fault.truncated.message ∧
      (Fault.originLength n).message ≠ Fault.shortOrigin.message := by
    constructor <;>
    · intro same
      have first := congrArg (fun text => text.toList.head?) same
      simp only [message_originLength] at first
      cases first
  cases fault <;> cases fault'
  case originLength.originLength n n' =>
    have digits := congrArg String.toList same
    rw [message_originLength, message_originLength, List.append_cancel_left_eq] at digits
    have value := congrArg (Text.digitsValue 0) digits
    rw [Text.digitsValue_toDigits, Text.digitsValue_toDigits] at value
    rw [value]
  case truncated.shortOrigin => exact absurd same (by decide)
  case shortOrigin.truncated => exact absurd same (by decide)
  case truncated.originLength n => exact absurd same.symm (io n).1
  case shortOrigin.originLength n => exact absurd same.symm (io n).2
  case originLength.truncated n => exact absurd same (io n).1
  case originLength.shortOrigin n => exact absurd same (io n).2
  all_goals rfl

/-- Reading accepts exactly the envelopes that can be written, whatever follows them, and gives what
    was written, which is unique. All other byte strings are refused for the first thing that is
    wrong with them, and the words say what that is. -/
theorem envelopes_are_read_exactly :
    (∀ origin payload, encode origin payload =
      [16, 0, 0, 0, 0, 0, 0, 0] ++ origin.octets ++
        (List.range 8).map (fun place => UInt8.ofNat (payload.length / 256 ^ place)) ++ payload) ∧
    (∀ data origin payload, decode data = .ok (origin, payload) ↔
      payload.length < 2 ^ 64 ∧ ∃ rest, data = encode origin payload ++ rest) ∧
    (∀ origin payload origin' payload' rest rest',
      payload.length < 2 ^ 64 → payload'.length < 2 ^ 64 →
        encode origin payload ++ rest = encode origin' payload' ++ rest' →
          origin = origin' ∧ payload = payload' ∧ rest = rest') ∧
    (∀ data outcome, decode data = outcome ↔ Reading data outcome) ∧
    ∀ fault fault' : Fault, fault.message = fault'.message → fault = fault' := by
  refine ⟨encode_eq, fun data origin payload => decode_eq_ok_iff, ?_, ?_, ?_⟩
  · intro origin payload origin' payload' rest rest' fits fits' same
    exact encode_append_inj fits fits' same
  · intro data outcome
    exact reading_iff.symm
  · intro fault fault' same
    exact Fault.message_injective same

/-- Something follows an envelope, and an envelope breaks off in its payload. -/
theorem envelopes_are_read_exactly_broken_off :
    let envelope := encode .zero [7, 8]
    decode (envelope ++ [9]) = .ok (.zero, [7, 8]) ∧
      decode (envelope.take 33) = .error .truncated ∧
      ∀ origin payload rest, payload.length < 2 ^ 64 →
        envelope ++ [9] = encode origin payload ++ rest → payload = [7, 8] := by
  intro envelope
  obtain ⟨-, accepted, unique, forms, -⟩ := envelopes_are_read_exactly
  refine ⟨(accepted ..).mpr ⟨by decide, [9], rfl⟩, (forms ..).mpr ?_, ?_⟩
  · exact .payloadShort .zero 2 [7] (by decide) (by decide)
  · intro origin payload rest fits same
    exact (unique .zero [7, 8] origin payload [9] rest (by decide) fits same).2.1.symm

end Wire
end ChatRelay
