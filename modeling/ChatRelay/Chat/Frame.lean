import ChatRelay.Chat.Message

/-! # Client frames

A frame from a client has to be a JSON object. Only its type field is looked at first: frames of
another kind than messages and joins are free to use any layout.
-/

namespace ChatRelay

/-- A frame that has been read as a JSON object. -/
structure Frame where
  fields : Json.Fields
  deriving Repr

namespace Frame

open Json (Fault Reader)

/-- An object at the front of the data. -/
def readObject : Reader Json.Fields := fun data =>
  match Json.skipBlanks data with
  | 0x7B :: rest => do
    let (v, rest) ← Json.value Json.maxDepth (0x7B :: rest)
    match v with
    | .object fields => .ok (fields, rest)
    | _ => .error .misfit
  | data => Json.refuse data

/-- Read a frame from its bytes. -/
def decode (data : Bytes) : Except Fault Frame := (Json.document readObject data).map Frame.mk

/-- What the frame asks for. -/
def kind (frame : Frame) : MessageKind :=
  match frame.fields.get? "type" with
  | some (.string text) => .ofType (some text)
  | _ => .other

/-- The frame as a chat message, if its fields fit. -/
def message? (frame : Frame) : Option Message := Message.ofFields? frame.fields

end Frame
end ChatRelay
