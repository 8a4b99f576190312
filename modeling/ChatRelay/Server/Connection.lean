import ChatRelay.Chat.Session
import ChatRelay.Hub.Outbound

/-! # Connections

What passes between the server and one connected client. Payloads that are valid text are sent as
text, all others as binary data.
-/

namespace ChatRelay

/-- What a client sends. -/
inductive Incoming where
  /-- A frame of text or of binary data; the two make no difference. -/
  | data (content : Bytes)
  | ping (content : Bytes)
  | pong (content : Bytes)
  | close
  /-- The connection broke. -/
  | lost
  deriving Repr, DecidableEq

/-- Longest content of a ping or a pong in bytes. -/
def controlLimit : Nat := 125

/-- What the server sends. -/
inductive Outgoing where
  | text (content : String)
  | binary (content : Bytes)
  | pong (content : Bytes)
  /-- The server says that it closes the connection. -/
  | close
  /-- The connection is over. -/
  | ended
  deriving Repr, DecidableEq

/-- A payload as it is sent. -/
def Outgoing.ofPayload (data : Bytes) : Outgoing :=
  match Utf8.toString? data with
  | some content => .text content
  | none => .binary data

/-- A connected client. -/
structure Connection where
  client : ClientId
  /-- Where its payloads wait. -/
  queue : QueueId
  /-- The room that the session is in, whether or not the hub has moved the client yet. -/
  room : String
  deriving Repr, DecidableEq

namespace Queues

/-- Take everything out of a queue, at most `fuel` payloads, and say whether it has ended. -/
def drain (queues : Queues) (id : QueueId) : (fuel : Nat) → List Bytes × Bool × Queues
  | 0 => ([], false, queues)
  | fuel + 1 =>
    match queues.receive id with
    | (.payload data, queues) =>
      let (later, ended, queues) := drain queues id fuel
      (data :: later, ended, queues)
    | (.empty, queues) => ([], false, queues)
    | (.ended, queues) => ([], true, queues)

/-- Take everything out of a queue. -/
def drainAll (queues : Queues) (id : QueueId) : List Bytes × Bool × Queues :=
  match queues[id]? with
  | some queue => queues.drain id (queue.backlog.length + 1)
  | none => ([], true, queues)

end Queues
end ChatRelay
