import ChatRelay.Fanout.Naming
import ChatRelay.Fanout.Outbox
import ChatRelay.Fanout.Wire
import ChatRelay.Redis.Store

/-! # The publisher

The publisher takes broadcasts out of the outbox and sends them in batches, one batch at a time. A
batch is delivered or lost as a whole, and counted either way.
-/

namespace ChatRelay

/-- State of the publisher. -/
structure Publisher where
  /-- Room and payload of each broadcast under way, oldest first. -/
  batch : List (String × Bytes) := []
  /-- Broadcasts whose batch was delivered. -/
  published : Nat := 0
  /-- Broadcasts whose batch was lost. -/
  failed : Nat := 0
  deriving Repr, DecidableEq

namespace Publisher

/-- Most broadcasts in a batch. -/
def batchLimit : Nat := 64

/-- Move the oldest broadcast from the outbox into the batch, if the batch is not full. -/
def collect (publisher : Publisher) (outbox : Outbox) : Publisher × Outbox :=
  if publisher.batch.length < batchLimit then
    let (oldest, outbox) := outbox.take 1
    ({ publisher with batch := publisher.batch ++ oldest }, outbox)
  else (publisher, outbox)

/-- Start a batch with what waits in the outbox, unless one is under way. -/
def gather (publisher : Publisher) (outbox : Outbox) : Publisher × Outbox :=
  if publisher.batch.isEmpty then
    Nat.repeat (fun (publisher, outbox) => publisher.collect outbox) batchLimit (publisher, outbox)
  else (publisher, outbox)

/-- The commands that send the batch. -/
def commands (publisher : Publisher) (id : InstanceId) (naming : ChannelNaming) :
    List Redis.Command :=
  publisher.batch.map fun (room, payload) =>
    .publish (Utf8.ofString (naming.channel room)) (Wire.encode id payload)

/-- The batch is over. -/
def settle (publisher : Publisher) (delivered : Bool) : Publisher :=
  let count := publisher.batch.length
  if delivered then { publisher with batch := [], published := publisher.published + count }
  else { publisher with batch := [], failed := publisher.failed + count }

end Publisher
end ChatRelay
