import ChatRelay.Chat.Frame

/-! # Chat sessions

A session is one connection's way through the rooms. What a frame from the client leads to depends
only on the frame, on the room that the session is in, and on the time: the session ends, moves to
another room, or sends something to its room, either a chat message that is stamped with the room
and the time or the frame as it came.
-/

namespace ChatRelay.Session

/-- What a frame from the client leads to. -/
inductive Reaction where
  /-- The frame is not acceptable: the connection is to be closed. -/
  | close
  /-- Nothing happens. -/
  | ignore
  /-- The session moves to a room. -/
  | move (room : String)
  /-- The frame goes to the room as it came. -/
  | relay (data : Bytes)
  /-- A chat message goes to the room and to the store. -/
  | say (message : Message)
  deriving Repr

/-- What a frame leads to in a session that is in `room`. -/
def react (room : String) (now : Timestamp) (data : Bytes) : Reaction :=
  match Frame.decode data with
  | .error _ => .close
  | .ok frame =>
    match frame.kind, frame.message? with
    | .other, _ => .relay data
    | _, none => .close
    | .join, some message =>
      match message.targetRoom with
      | some target => .move target
      | none => .ignore
    | .message, some message => .say (message.stamp room now)

/-- The room of the session after a reaction. -/
def Reaction.roomAfter (room : String) : Reaction → String
  | .move target => target
  | _ => room

/-- What a reaction sends to the room of the session. -/
def Reaction.payload? : Reaction → Option Bytes
  | .relay data => some data
  | .say message => some message.encode
  | _ => none

end ChatRelay.Session
