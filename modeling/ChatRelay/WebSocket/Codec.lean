import ChatRelay.Server.Connection
import ChatRelay.Text.Base64
import ChatRelay.WebSocket.Digest

/-! # Frames of a WebSocket

A message travels in one or more frames, each with an operation code, a length and a payload. What a
client sends is masked with four bytes. Between the frames of a message there may be control frames.
`Inbox.feed` reads everything that a client has sent so far and keeps what is not complete yet.
-/

namespace ChatRelay.WebSocket

/-- The identifier of the protocol that goes into the answer to a handshake. -/
def protocolId : String := "258EAFA5-E914-47DA-95CA-C5AB0DC85B11"

/-- The answer to the key of a handshake. -/
def acceptToken (key : String) : String :=
  String.ofList (Text.base64 (Digest.ofMessage (Utf8.ofString (key ++ protocolId))))

/-- One frame. -/
structure Frame where
  /-- Whether it is the last one of its message. -/
  final : Bool
  code : Nat
  payload : Bytes
  deriving Repr, DecidableEq

/-- Longest payload of a frame. -/
def frameLimit : Nat := 16777216

/-- What stands at the front of some bytes. -/
inductive Scan where
  | frame (frame : Frame) (rest : Bytes)
  /-- The frame is not complete. -/
  | incomplete
  /-- No frame of a client starts like this. -/
  | broken

/-- A number of which the most significant byte comes first. -/
def bigEndian (data : Bytes) : Nat := Bytes.ofLittleEndian data.reverse

/-- Undo the mask of a payload. -/
def unmask (mask : Bytes) (data : Bytes) : Bytes :=
  match mask with
  | [] => data
  | key :: keys => match data with
    | [] => []
    | b :: rest => (b ^^^ key) :: unmask (keys ++ [key]) rest
termination_by data.length

/-- The mask and the payload of a frame. -/
def scanPayload (final : Bool) (code length : Nat) (data : Bytes) : Scan :=
  if frameLimit < length then .broken
  else
    match Bytes.split? 4 data with
    | none => .incomplete
    | some (mask, data) =>
      match Bytes.split? length data with
      | none => .incomplete
      | some (payload, rest) => .frame ⟨final, code, unmask mask payload⟩ rest

/-- Read a frame of a client. It has to be masked, must not use reserved bits, and a control frame
    is short and final. -/
def scan (data : Bytes) : Scan :=
  match data with
  | first :: second :: rest =>
    let final := 0x80 ≤ first
    let code := first.toNat % 16
    let length := second.toNat % 128
    if 16 ≤ first.toNat % 128 || second < 0x80 || (8 ≤ code && (!final || 126 ≤ length)) then
      .broken
    else if length < 126 then scanPayload final code length rest
    else
      match Bytes.split? (if length = 126 then 2 else 8) rest with
      | none => .incomplete
      | some (size, rest) => scanPayload final code (bigEndian size) rest
  | _ => .incomplete

/-- What a client has sent that is not complete. -/
structure Inbox where
  /-- Bytes of a frame. -/
  bytes : Bytes := []
  /-- Whether a message has begun, whether it is one of text, and its bytes so far. -/
  message : Option (Bool × Bytes) := none
  deriving Repr, DecidableEq

namespace Inbox

/-- A complete message. Text has to be valid. -/
def complete (isText : Bool) (data : Bytes) : Incoming :=
  if isText && !Utf8.isValid data then .lost else .data data

/-- What a frame leads to, if anything. -/
def take (inbox : Inbox) (frame : Frame) : Option Incoming × Inbox :=
  match frame.code, inbox.message with
  | 0, some (isText, before) =>
    if frame.final then
      (some (complete isText (before ++ frame.payload)), { inbox with message := none })
    else (none, { inbox with message := some (isText, before ++ frame.payload) })
  | 1, none | 2, none =>
    if frame.final then (some (complete (frame.code == 1) frame.payload), inbox)
    else (none, { inbox with message := some (frame.code == 1, frame.payload) })
  | 8, _ => (some .close, inbox)
  | 9, _ => (some (.ping frame.payload), inbox)
  | 10, _ => (some (.pong frame.payload), inbox)
  | _, _ => (some .lost, inbox)

/-- Read every complete frame, at most `fuel` of them. -/
def read : (fuel : Nat) → Inbox → List Incoming × Inbox
  | 0, inbox => ([], inbox)
  | fuel + 1, inbox =>
    match scan inbox.bytes with
    | .incomplete => ([], inbox)
    | .broken => ([.lost], { inbox with bytes := [] })
    | .frame frame rest =>
      let (incoming, inbox) := { inbox with bytes := rest }.take frame
      let (later, inbox) := read fuel inbox
      (incoming.toList ++ later, inbox)

/-- More bytes have come. Every frame has at least two of them. -/
def feed (inbox : Inbox) (data : Bytes) : List Incoming × Inbox :=
  let bytes := inbox.bytes ++ data
  read bytes.length { inbox with bytes }

end Inbox

/-- A frame of the server. -/
def encode (code : UInt8) (payload : Bytes) : Bytes :=
  let size := payload.length
  let length := if size < 126 then [UInt8.ofNat size]
    else if size < 65536 then 126 :: (Bytes.littleEndian 2 size).reverse
    else 127 :: (Bytes.littleEndian 8 size).reverse
  (0x80 ||| code) :: length ++ payload

/-- What the server sends, in frames. Nothing is sent at the end of a connection. -/
def encodeOutgoing : Outgoing → Bytes
  | .text content => encode 1 (Utf8.ofString content)
  | .binary content => encode 2 content
  | .pong content => encode 10 content
  | .close => encode 8 []
  | .ended => []

end ChatRelay.WebSocket
