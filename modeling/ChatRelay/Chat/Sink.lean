import ChatRelay.Chat.Message

/-! # Keeping chat messages

Chat messages are handed to a store of their own after they are sent. Nothing waits for the store,
and its refusals change nothing here.
-/

namespace ChatRelay

/-- Why a store does not keep a message. -/
inductive SinkError where
  | unavailable (reason : String)
  | rejected (reason : String)
  deriving Repr, DecidableEq

/-- What is wrong, in words. -/
def SinkError.message : SinkError → String
  | .unavailable reason => "Message store unavailable: " ++ reason
  | .rejected reason => "Message rejected: " ++ reason

/-- A store that remembers what was handed to it, oldest first, whatever it then says. -/
structure Sink where
  outcome : Except SinkError Unit := .ok ()
  handed : List Message := []

namespace Sink

/-- Hand a message to the store. -/
def persist (sink : Sink) (message : Message) : Except SinkError Unit × Sink :=
  (sink.outcome, { sink with handed := sink.handed ++ [message] })

end Sink
end ChatRelay
