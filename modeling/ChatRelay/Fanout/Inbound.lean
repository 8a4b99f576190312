import ChatRelay.Fanout.Naming
import ChatRelay.Fanout.Wire
import ChatRelay.Hub.Envelope
import ChatRelay.Text.Quoted

/-! # Messages from other instances

A message that arrives on a channel becomes an envelope for the members here, unless this instance
sent it itself. The channel is looked at before the data.
-/

namespace ChatRelay

/-- Why a message that arrived cannot be relayed. -/
inductive InboundFault where
  /-- The channel belongs to no room. -/
  | unknownChannel (channel : String)
  /-- The data is no envelope. -/
  | codec (fault : Wire.Fault)
  deriving Repr, DecidableEq

/-- What is wrong, in words. -/
def InboundFault.message : InboundFault → String
  | .unknownChannel channel =>
    "Channel " ++ Text.quoted channel ++ " does not match the room prefix"
  | .codec fault => "Codec error: " ++ fault.message

/-- The envelope of a message on `channel`, or nothing if `self` sent it. -/
def acceptInbound (self : InstanceId) (naming : ChannelNaming) (channel : String) (data : Bytes) :
    Except InboundFault (Option Envelope) :=
  match naming.room? channel with
  | none => .error (.unknownChannel channel)
  | some room =>
    match Wire.decode data with
    | .error fault => .error (.codec fault)
    | .ok (origin, payload) =>
      if origin = self then .ok none
      else .ok (some { room, payload, origin := .instance origin })

end ChatRelay
