import ChatRelay.Instance

/-! # Wire envelopes

What instances send each other is the sender's identifier and the payload, each after its length as
a word of eight bytes, least significant first. `Wire.decode` reads such an envelope from the front
of a byte string; what follows it is ignored.
-/

namespace ChatRelay.Wire

/-- Why a byte string holds no envelope. -/
inductive Fault where
  /-- A length or the payload runs out. -/
  | truncated
  /-- The data ends inside the bytes of the identifier. -/
  | shortOrigin
  /-- The identifier has a length other than 16. -/
  | originLength (found : Nat)
  deriving Repr, DecidableEq

/-- What is wrong, in words. -/
def Fault.message : Fault → String
  | .truncated => "io error: unexpected end of file"
  | .shortOrigin => "io error: "
  | .originLength found =>
    s!"UUID parsing failed: invalid length: expected 16 bytes, found {found}"

/-- A length as it is written. -/
def lengthWord (n : Nat) : Bytes := Bytes.littleEndian 8 n

/-- Read a length. -/
def length? (data : Bytes) : Option (Nat × Bytes) :=
  (Bytes.split? 8 data).map fun (word, rest) => (Bytes.ofLittleEndian word, rest)

/-- The envelope of a payload. -/
def encode (origin : InstanceId) (payload : Bytes) : Bytes :=
  lengthWord 16 ++ origin.octets ++ lengthWord payload.length ++ payload

/-- The payload with its length in front. -/
def decodePayload (data : Bytes) : Except Fault Bytes :=
  match length? data with
  | none => .error .truncated
  | some (size, rest) =>
    match Bytes.split? size rest with
    | none => .error .truncated
    | some (payload, _) => .ok payload

/-- Read the envelope at the front of a byte string. -/
def decode (data : Bytes) : Except Fault (InstanceId × Bytes) :=
  match length? data with
  | none => .error .truncated
  | some (size, rest) =>
    match Bytes.split? size rest with
    | none => .error .shortOrigin
    | some (octets, rest) =>
      match InstanceId.ofBytes? octets with
      | none => .error (.originLength size)
      | some origin => (decodePayload rest).map (origin, ·)

end ChatRelay.Wire
