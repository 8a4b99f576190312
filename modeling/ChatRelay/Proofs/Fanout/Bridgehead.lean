import ChatRelay.Fanout.Bridge
import ChatRelay.Proofs.Hub.Broadcasts
import ChatRelay.Proofs.Hub.Venue

/-! # An instance and its bridge

A hub among its clients, with the bridge that links it to other instances. The hub and whoever else
holds the outbox put broadcasts into it; the publisher takes them out one at a time and sends them
in batches; the subscriber connects, listens, and hands what it receives to the hub. All of them
take their steps in any order, and each batch and each connection may fail.

The subscriber has a handle of the hub only while it hands over an envelope. The two halves of the
bridge end together, as soon as one of them does.
-/

namespace ChatRelay

structure Bridgehead where
  venue : Venue
  bridge : Bridge
  /-- Whether the hub puts its broadcasts into the outbox. -/
  attached : Bool
  /-- Whether somebody else can put something into the outbox. -/
  held : Bool
  /-- Whether the batch is on its way. -/
  sending : Bool := false
  /-- Whether the subscriber has a handle of the hub. -/
  holding : Bool := false

/-- What is seen of the outbox and of the publisher. -/
inductive PostMark where
  /-- The hub or somebody else offered a broadcast, which was accepted or refused. -/
  | offered (byHub : Bool) (room : String) (payload : Bytes) (accepted : Bool)
  | settled (commands : List Redis.Command) (outcome : Except LinkError Unit)
  /-- The bridge ended because the publisher had nothing left to do, or else because the subscriber
      had no hub; what was under way or waited is lost. -/
  | ended (drained : Bool) (lost : List (String × Bytes))

/-- What is seen of the subscriber. -/
inductive HearMark where
  | dialled
  | listening
  /-- The connection is over, because of a fault or because there is no hub. -/
  | returned (fault : Option BridgeError)
  | received (channel : String) (data : Bytes)
  /-- It has a handle of the hub and begins to submit an envelope. -/
  | handed (envelope : Envelope)
  | relayed (envelope : Envelope)
  /-- An envelope, handed or not, that the hub did not get. -/
  | missed (envelope : Envelope) (handed : Bool)

inductive BridgeheadMark where
  | post (mark : PostMark)
  | hear (mark : HearMark)

/-- A step of one of the parties. -/
inductive BridgeheadMove where
  /-- The hub, its clients or another holder of the hub do something. -/
  | world (move : WorldMove)
  /-- Somebody beside the hub puts a broadcast into the outbox. -/
  | offer (room : String) (payload : Bytes)
  /-- Nobody beside the hub holds the outbox any more. -/
  | letGo
  /-- The publisher takes a broadcast out of the outbox. -/
  | collect
  | send
  | settle (outcome : Except LinkError Unit)
  | finish
  /-- The subscriber begins, or its pause is over. -/
  | wake
  /-- Its subscription stands. -/
  | listen
  /-- Its connection cannot be had, or is lost. -/
  | fail (cause : BridgeError) (jitter : Rat)
  | receive (channel : String) (data : Bytes)
  /-- It asks for a handle of the hub. -/
  | reach
  | submit

namespace SubscriberPhase

/-- Whether there is no connection, nor an attempt to have one. -/
def isIdle : SubscriberPhase → Bool
  | waking | pausing _ => true
  | _ => false

/-- Whether a connection is attempted, or waits for a message. -/
def isOpen : SubscriberPhase → Bool
  | connecting | listening => true
  | _ => false

theorem ne_of_isIdle {phase : SubscriberPhase} (idle : phase.isIdle = true) : phase ≠ stopped := by
  rintro rfl
  exact nomatch idle

theorem ne_of_isOpen {phase : SubscriberPhase} (isOpen : phase.isOpen = true) :
    phase ≠ stopped := by
  rintro rfl
  exact nomatch isOpen

end SubscriberPhase

/-- The envelope that the subscriber is handing over. -/
def Subscriber.underway (subscriber : Subscriber) : List Envelope :=
  match subscriber.phase with
  | .relaying envelope => [envelope]
  | _ => []

namespace BridgeheadMark

def post? : BridgeheadMark → Option PostMark
  | post mark => some mark
  | hear _ => none

def hear? : BridgeheadMark → Option HearMark
  | post _ => none
  | hear mark => some mark

/-- What a report of the hub says of the outbox. -/
def ofReport? (event : Event) : Option BridgeheadMark :=
  event.offered?.map fun (envelope, accepted) =>
    .post (.offered true envelope.room envelope.payload accepted)

end BridgeheadMark

namespace Bridgehead

def loop (b : Bridgehead) : EventLoop := b.venue.node.loop

def withLoop (b : Bridgehead) (loop : EventLoop) : Bridgehead :=
  { b with venue := { b.venue with node := { b.venue.node with loop } } }

def withSubscriber (b : Bridgehead) (subscriber : Subscriber) : Bridgehead :=
  { b with bridge := { b.bridge with subscriber } }

/-- The venue with the outbox in the place where the hub puts its broadcasts, if it does. -/
def equipped (b : Bridgehead) : Venue :=
  { b.venue with
    node := { b.venue.node with outbox := if b.attached then some b.bridge.outbox else none } }

/-- Whether anybody can still put something into the outbox. -/
def outboxHeld (b : Bridgehead) : Bool := b.held || (b.attached && b.loop.running)

/-- Whether somebody beside the subscriber has a handle of the hub. -/
def hubHeld (b : Bridgehead) : Bool := (if b.holding then 1 else 0) < b.loop.handles

/-- Whether the publisher has a batch, and no room in it or nothing to add. -/
def batchReady (b : Bridgehead) : Bool :=
  !b.sending && !b.bridge.publisher.batch.isEmpty &&
    (b.bridge.publisher.batch.length == Publisher.batchLimit || b.bridge.outbox.waiting.isEmpty)

/-- The bridge ends, and the envelope that is being handed over goes with it. -/
def conclude (b : Bridgehead) (drained : Bool) : List BridgeheadMark × Bridgehead :=
  let missed := b.bridge.subscriber.underway.map (HearMark.missed · b.holding)
  let lost := b.bridge.publisher.batch ++ b.bridge.outbox.waiting
  (missed.map .hear ++ [.post (.ended drained lost)],
    { b.withLoop (if b.holding then b.loop.drop else b.loop) with
      bridge := b.bridge.close
      sending := false
      holding := false })

/-- A step of the hub, of its clients or of another holder of the hub. -/
def worldStep (b : Bridgehead) (move : WorldMove) : List BridgeheadMark × Bridgehead :=
  let venue := (b.equipped.step (.world move)).2
  ((b.equipped.world.reports (b.equipped.actual move)).filterMap BridgeheadMark.ofReport?,
    { b with
      venue
      bridge := { b.bridge with outbox := venue.node.outbox.getD b.bridge.outbox } })

/-- The subscriber finds no hub to relay to. -/
def desert (b : Bridgehead) : List BridgeheadMark × Bridgehead :=
  let (marks, last) := b.conclude false
  (.hear (.returned none) :: marks, last.withSubscriber (b.bridge.subscriber.relay false))

/-- One step. A step that is not possible changes nothing. -/
def step (id : InstanceId) (naming : ChannelNaming) (b : Bridgehead) :
    BridgeheadMove → List BridgeheadMark × Bridgehead
  | .world .drop => if b.hubHeld then b.worldStep .drop else ([], b)
  | .world move => b.worldStep move
  | .offer room payload =>
      if b.held then
        let (accepted, outbox) := b.bridge.outbox.offer room payload
        ([.post (.offered false room payload accepted)],
          { b with bridge := { b.bridge with outbox } })
      else ([], b)
  | .letGo => ([], { b with held := false })
  | .collect =>
      if b.sending then ([], b)
      else
        let (publisher, outbox) := b.bridge.publisher.collect b.bridge.outbox
        ([], { b with bridge := { b.bridge with publisher, outbox } })
  | .send => ([], if b.batchReady then { b with sending := true } else b)
  | .settle outcome =>
      if b.sending then
        let publisher := b.bridge.publisher.settle outcome.isOk
        ([.post (.settled (b.bridge.publisher.commands id naming) outcome)],
          { b with bridge := { b.bridge with publisher }, sending := false })
      else ([], b)
  | .finish =>
      if !b.bridge.ended && b.bridge.isDrained b.outboxHeld then b.conclude true else ([], b)
  | .wake =>
      if b.bridge.subscriber.phase.isIdle then
        let next := b.withSubscriber (b.bridge.subscriber.wake b.loop.canUpgrade)
        if b.loop.canUpgrade then ([.hear .dialled], next) else next.conclude false
      else ([], b)
  | .listen =>
      match b.bridge.subscriber.phase with
      | .connecting => ([.hear .listening], b.withSubscriber b.bridge.subscriber.listen)
      | _ => ([], b)
  | .fail cause jitter =>
      if b.bridge.subscriber.phase.isOpen then
        ([.hear (.returned (some cause))], b.withSubscriber (b.bridge.subscriber.fail jitter))
      else ([], b)
  | .receive channel data =>
      match b.bridge.subscriber.phase with
      | .listening =>
          ([.hear (.received channel data)],
            b.withSubscriber (b.bridge.subscriber.receive id naming channel data))
      | _ => ([], b)
  | .reach =>
      match b.bridge.subscriber.phase with
      | .relaying envelope =>
          if b.holding then ([], b)
          else if b.loop.canUpgrade then
            ([.hear (.handed envelope)], { b.withLoop b.loop.retain with holding := true })
          else b.desert
      | _ => ([], b)
  | .submit =>
      match b.bridge.subscriber.phase with
      | .relaying envelope =>
          if b.holding then
            match b.loop.submit (.broadcast envelope) with
            | (.accepted, loop) =>
                ([.hear (.relayed envelope)],
                  { (b.withLoop loop.drop).withSubscriber (b.bridge.subscriber.relay true) with
                    holding := false })
            | (.waiting, _) => ([], b)
            | (.refused, _) => b.desert
          else ([], b)
      | _ => ([], b)

/-- A hub that has just started, and a bridge that has not begun. -/
def start (node : Node) (commandCapacity queueCapacity : Nat) (attached held : Bool) :
    Bridgehead where
  venue := .start node commandCapacity
  bridge := { outbox := .ofCapacity queueCapacity }
  attached
  held

end Bridgehead

/-! ## What a step does to the outbox and the publisher -/

/-- The outbox and the publisher, and what the hub counted of them. -/
structure Desk where
  outbox : Outbox
  publisher : Publisher
  ended : Bool
  sending : Bool
  published : Nat
  unpublished : Nat

namespace Desk

/-- Somebody offers a broadcast; the hub counts what becomes of its own. -/
def offer (desk : Desk) (byHub : Bool) (room : String) (payload : Bytes) : Desk :=
  let own := if byHub then 1 else 0
  { desk with
    outbox := (desk.outbox.offer room payload).2
    published := desk.published + if desk.outbox.accepts then own else 0
    unpublished := desk.unpublished + if desk.outbox.accepts then 0 else own }

end Desk

def Bridgehead.desk (b : Bridgehead) : Desk where
  outbox := b.bridge.outbox
  publisher := b.bridge.publisher
  ended := b.bridge.ended
  sending := b.sending
  published := b.loop.hub.stats.published
  unpublished := b.loop.hub.stats.unpublished

/-- What can happen to the outbox and the publisher in one step. -/
inductive Posting (id : InstanceId) (naming : ChannelNaming) (desk : Desk) :
    List PostMark → Desk → Prop where
  | idle : Posting id naming desk [] desk
  | offered (byHub : Bool) (room : String) (payload : Bytes) :
      Posting id naming desk [.offered byHub room payload desk.outbox.accepts]
        (desk.offer byHub room payload)
  | collected (gathering : desk.sending = false) :
      Posting id naming desk []
        { desk with
          publisher := (desk.publisher.collect desk.outbox).1
          outbox := (desk.publisher.collect desk.outbox).2 }
  | sent (some : desk.publisher.batch ≠ []) :
      Posting id naming desk [] { desk with sending := true }
  | settled (sending : desk.sending = true) (outcome : Except LinkError Unit) :
      Posting id naming desk [.settled (desk.publisher.commands id naming) outcome]
        { desk with publisher := desk.publisher.settle outcome.isOk, sending := false }
  | ended (drained : Bool) (running : desk.ended = false)
      (nothing : drained = true → desk.publisher.batch ++ desk.outbox.waiting = []) :
      Posting id naming desk [.ended drained (desk.publisher.batch ++ desk.outbox.waiting)]
        { desk with
          outbox := desk.outbox.abandon
          publisher := { desk.publisher with batch := [] }
          ended := true
          sending := false }

/-! ## What a step does to the subscriber -/

/-- What can happen to the subscriber in one step; `holding` tells whether it has a handle. -/
inductive Hearing (id : InstanceId) (naming : ChannelNaming) (subscriber : Subscriber) :
    (holding : Bool) → List HearMark → Subscriber → (holding' : Bool) → Prop where
  | idle (holding : Bool) : Hearing id naming subscriber holding [] subscriber holding
  | dialled (holding : Bool) (idle : subscriber.phase.isIdle = true) :
      Hearing id naming subscriber holding [.dialled]
        { subscriber with phase := .connecting } holding
  | listening (holding : Bool) (connecting : subscriber.phase = .connecting) :
      Hearing id naming subscriber holding [.listening] subscriber.listen holding
  | failed (holding : Bool) (cause : BridgeError) (jitter : Rat)
      (isOpen : subscriber.phase.isOpen = true) :
      Hearing id naming subscriber holding [.returned (some cause)] (subscriber.fail jitter) holding
  | received (holding : Bool) (channel : String) (data : Bytes)
      (listening : subscriber.phase = .listening) :
      Hearing id naming subscriber holding [.received channel data]
        (subscriber.receive id naming channel data) holding
  | handed {envelope : Envelope} (relaying : subscriber.phase = .relaying envelope) :
      Hearing id naming subscriber false [.handed envelope] subscriber true
  | relayed {envelope : Envelope} (relaying : subscriber.phase = .relaying envelope) :
      Hearing id naming subscriber true [.relayed envelope] (subscriber.relay true) false
  /-- The subscriber comes to its end when it is about to try again. -/
  | gone (holding : Bool) (idle : subscriber.phase.isIdle = true) :
      Hearing id naming subscriber holding [] { subscriber with phase := .stopped } false
  /-- It comes to its end with an envelope in its hands. -/
  | missed (holding : Bool) {envelope : Envelope}
      (relaying : subscriber.phase = .relaying envelope) :
      Hearing id naming subscriber holding [.returned none, .missed envelope holding]
        (subscriber.relay false) false
  | dropped (holding : Bool) :
      Hearing id naming subscriber holding (subscriber.underway.map (.missed · holding))
        { subscriber with phase := .stopped } false

def Outbox.offers (outbox : Outbox) (envelopes : List Envelope) : Outbox :=
  envelopes.foldl (fun outbox envelope => (outbox.offer envelope.room envelope.payload).2) outbox

theorem Node.outbox_foldl_offers {node : Node} (events : List Event) :
    (events.foldl absorb node).outbox = node.outbox.map
      (·.offers ((events.filterMap Event.offered?).map Prod.fst)) := by
  induction events generalizing node with
  | nil => simp [Outbox.offers]
  | cons event events ih =>
      rw [List.foldl_cons, ih]
      cases event with
      | published room payload accepted =>
          simp [absorb, Event.offered?, Outbox.offers, Function.comp_def]
      | recorded | delivered | answered => rfl

namespace Subscriber

variable {subscriber : Subscriber}

theorem wake_of_isIdle (idle : subscriber.phase.isIdle = true) (hubExists : Bool) :
    subscriber.wake hubExists =
      { subscriber with phase := if hubExists then .connecting else .stopped } := by
  obtain ⟨phase⟩ := subscriber
  cases phase with
  | waking | pausing => rfl
  | _ => exact nomatch idle

theorem listen_of_connecting (connecting : subscriber.phase = .connecting) :
    subscriber.listen =
      { subscriber with
        phase := .listening
        connected := true
        backoff := subscriber.backoff.reset } := by
  simp only [listen, connecting]

theorem fail_of_isOpen (isOpen : subscriber.phase.isOpen = true) (jitter : Rat) :
    subscriber.fail jitter =
      { subscriber with
        phase := .pausing (subscriber.backoff.next jitter).1
        backoff := (subscriber.backoff.next jitter).2
        connected := false
        reconnects := subscriber.reconnects + 1 } := by
  obtain ⟨phase⟩ := subscriber
  cases phase with
  | connecting | listening => rfl
  | _ => exact nomatch isOpen

theorem relay_of_relaying {envelope : Envelope} (relaying : subscriber.phase = .relaying envelope)
    (taken : Bool) :
    subscriber.relay taken =
      if taken then { subscriber with phase := .listening, relayed := subscriber.relayed + 1 }
      else { subscriber with phase := .stopped, connected := false } := by
  simp only [relay, relaying]

/-- A message is handed to the hub, or was sent by this instance, or cannot be read. -/
theorem receive_cases (id : InstanceId) (naming : ChannelNaming)
    (listening : subscriber.phase = .listening) (channel : String) (data : Bytes) :
    let counted := { subscriber with received := subscriber.received + 1 }
    let next := subscriber.receive id naming channel data
    (∃ envelope, acceptInbound id naming channel data = .ok (some envelope) ∧
        next = { counted with phase := .relaying envelope }) ∨
      (acceptInbound id naming channel data = .ok none ∧
        next = { counted with skippedOwn := subscriber.skippedOwn + 1 }) ∨
      (∃ fault, acceptInbound id naming channel data = .error fault ∧
        next = { counted with malformed := subscriber.malformed + 1 }) := by
  simp only [receive, listening]
  cases acceptInbound id naming channel data with
  | error fault => exact .inr (.inr ⟨fault, rfl, rfl⟩)
  | ok found =>
      cases found with
      | none => exact .inr (.inl ⟨rfl, rfl⟩)
      | some envelope => exact .inl ⟨envelope, rfl, rfl⟩

theorem receive_ne_stopped (id : InstanceId) (naming : ChannelNaming)
    (listening : subscriber.phase = .listening) (channel : String) (data : Bytes) :
    (subscriber.receive id naming channel data).phase ≠ .stopped := by
  obtain ⟨envelope, -, next⟩ | ⟨-, next⟩ | ⟨fault, -, next⟩ :=
    receive_cases id naming listening channel data
  · rw [next]
    exact nofun
  · simp [next, listening]
  · simp [next, listening]

end Subscriber

namespace Bridgehead

variable {id : InstanceId} {naming : ChannelNaming}

def retired (b : Bridgehead) : Bridgehead :=
  b.withSubscriber { b.bridge.subscriber with phase := .stopped }

/-- What one step can be, what it shows and where it leads. -/
inductive Stepping (id : InstanceId) (naming : ChannelNaming) (b : Bridgehead) :
    BridgeheadMove → List BridgeheadMark → Bridgehead → Prop where
  | idle (move : BridgeheadMove) : Stepping id naming b move [] b
  | world (move : WorldMove) :
      Stepping id naming b (.world move) (b.worldStep move).1 (b.worldStep move).2
  | offered (room : String) (payload : Bytes) :
      Stepping id naming b (.offer room payload)
        [.post (.offered false room payload (b.bridge.outbox.offer room payload).1)]
        { b with bridge := { b.bridge with outbox := (b.bridge.outbox.offer room payload).2 } }
  | letGo : Stepping id naming b .letGo [] { b with held := false }
  | collected (gathering : b.sending = false) :
      Stepping id naming b .collect []
        { b with
          bridge := { b.bridge with
            publisher := (b.bridge.publisher.collect b.bridge.outbox).1
            outbox := (b.bridge.publisher.collect b.bridge.outbox).2 } }
  | sent (some : b.bridge.publisher.batch ≠ []) :
      Stepping id naming b .send [] { b with sending := true }
  | settled (sending : b.sending = true) (outcome : Except LinkError Unit) :
      Stepping id naming b (.settle outcome)
        [.post (.settled (b.bridge.publisher.commands id naming) outcome)]
        { b with
          bridge := { b.bridge with publisher := b.bridge.publisher.settle outcome.isOk }
          sending := false }
  | finished (running : b.bridge.ended = false)
      (nothing : b.bridge.publisher.batch ++ b.bridge.outbox.waiting = []) :
      Stepping id naming b .finish (b.conclude true).1 (b.conclude true).2
  | dialled (idle : b.bridge.subscriber.phase.isIdle = true) :
      Stepping id naming b .wake [.hear .dialled]
        (b.withSubscriber { b.bridge.subscriber with phase := .connecting })
  | gone (idle : b.bridge.subscriber.phase.isIdle = true) (unheld : b.loop.canUpgrade = false) :
      Stepping id naming b .wake (b.retired.conclude false).1 (b.retired.conclude false).2
  | listening (connecting : b.bridge.subscriber.phase = .connecting) :
      Stepping id naming b .listen [.hear .listening]
        (b.withSubscriber b.bridge.subscriber.listen)
  | failed (isOpen : b.bridge.subscriber.phase.isOpen = true) (cause : BridgeError)
      (jitter : Rat) :
      Stepping id naming b (.fail cause jitter) [.hear (.returned (some cause))]
        (b.withSubscriber (b.bridge.subscriber.fail jitter))
  | received (listening : b.bridge.subscriber.phase = .listening) (channel : String)
      (data : Bytes) :
      Stepping id naming b (.receive channel data) [.hear (.received channel data)]
        (b.withSubscriber (b.bridge.subscriber.receive id naming channel data))
  | handed {envelope : Envelope} (relaying : b.bridge.subscriber.phase = .relaying envelope)
      (free : b.holding = false) (found : b.loop.canUpgrade = true) :
      Stepping id naming b .reach [.hear (.handed envelope)]
        { b.withLoop b.loop.retain with holding := true }
  | relayed {envelope : Envelope} (relaying : b.bridge.subscriber.phase = .relaying envelope)
      (held : b.holding = true) :
      Stepping id naming b .submit [.hear (.relayed envelope)]
        { (b.withLoop { b.loop with
            pending := b.loop.pending ++ [Command.broadcast envelope] }.drop).withSubscriber
              (b.bridge.subscriber.relay true) with holding := false }
  | deserted (move : BridgeheadMove) {envelope : Envelope}
      (relaying : b.bridge.subscriber.phase = .relaying envelope)
      (missing : b.loop.canUpgrade = false ∨ b.loop.running = false) :
      Stepping id naming b move b.desert.1 b.desert.2

theorem stepping (b : Bridgehead) (move : BridgeheadMove) :
    Stepping id naming b move (b.step id naming move).1 (b.step id naming move).2 := by
  cases move with
  | world move =>
      cases move with
      | drop =>
          simp only [step]
          split
          · exact .world .drop
          · exact .idle _
      | _ => exact .world _
  | letGo => exact .letGo
  | offer room payload =>
      simp only [step]
      split
      · exact .offered room payload
      · exact .idle _
  | collect =>
      simp only [step]
      split
      · exact .idle _
      · next gathering => exact .collected (Bool.eq_false_of_not_eq_true gathering)
  | send =>
      simp only [step]
      split
      · next ready =>
          simp only [batchReady, Bool.and_eq_true, Bool.not_eq_true',
            List.isEmpty_eq_false_iff] at ready
          exact .sent ready.1.2
      · exact .idle _
  | settle outcome =>
      simp only [step]
      split
      · next sending => exact .settled sending outcome
      · exact .idle _
  | finish =>
      simp only [step]
      split
      · next drained =>
          simp only [Bridge.isDrained, Bool.and_eq_true, List.isEmpty_iff] at drained
          apply Stepping.finished
          · simpa using drained.1
          · rw [drained.2.2, drained.2.1.2, List.nil_append]
      · exact .idle _
  | wake =>
      simp only [step]
      split
      · next idle =>
          rw [Subscriber.wake_of_isIdle idle]
          cases found : b.loop.canUpgrade with
          | true => exact .dialled idle
          | false => exact .gone idle found
      · exact .idle _
  | listen =>
      simp only [step]
      split
      · next connecting => exact .listening connecting
      · exact .idle _
  | fail cause jitter =>
      simp only [step]
      split
      · next isOpen => exact .failed isOpen cause jitter
      · exact .idle _
  | receive channel data =>
      simp only [step]
      split
      · next listening => exact .received listening channel data
      · exact .idle _
  | reach =>
      simp only [step]
      split
      · next envelope relaying =>
          split
          · exact .idle _
          · next free =>
              split
              · next found =>
                  exact .handed relaying (Bool.eq_false_of_not_eq_true free) found
              · next unheld =>
                  exact .deserted _ relaying (.inl (Bool.eq_false_of_not_eq_true unheld))
      · exact .idle _
  | submit =>
      simp only [step]
      split
      · next envelope relaying =>
          split
          · next held =>
              split
              · next accepted =>
                  rw [EventLoop.eq_of_submit accepted]
                  exact .relayed relaying held
              · exact .idle _
              · next refused =>
                  exact .deserted _ relaying (.inr (EventLoop.running_of_submit refused))
          · exact .idle _
      · exact .idle _

/-- What a run shows of the outbox and the publisher. -/
def posts (log : List BridgeheadMark) : List PostMark := log.filterMap BridgeheadMark.post?

/-- What a run shows of the subscriber. -/
def hears (log : List BridgeheadMark) : List HearMark := log.filterMap BridgeheadMark.hear?

@[simp] theorem posts_nil : posts [] = [] := rfl

@[simp] theorem hears_nil : hears [] = [] := rfl

@[simp] theorem posts_append (log marks : List BridgeheadMark) :
    posts (log ++ marks) = posts log ++ posts marks := List.filterMap_append

@[simp] theorem hears_append (log marks : List BridgeheadMark) :
    hears (log ++ marks) = hears log ++ hears marks := List.filterMap_append

theorem posts_reports (events : List Event) :
    posts (events.filterMap BridgeheadMark.ofReport?) =
      (events.filterMap Event.offered?).map fun (envelope, accepted) =>
        .offered true envelope.room envelope.payload accepted := by
  induction events with
  | nil => rfl
  | cons event events ih =>
      cases event with
      | published room payload accepted => exact congrArg (List.cons _) ih
      | recorded | delivered | answered => exact ih

@[simp] theorem getD_equipped (b : Bridgehead) :
    b.equipped.node.outbox.getD b.bridge.outbox = b.bridge.outbox := by
  simp only [equipped]
  split <;> rfl

/-- A step of the world in which the hub processes nothing. -/
theorem worldStep_idle {b : Bridgehead} {move : WorldMove}
    (idle : b.equipped.world.processing? (b.equipped.actual move) = none) :
    (b.worldStep move).1 = [] ∧ (b.worldStep move).2.desk = b.desk := by
  have stats : (b.equipped.step (.world move)).2.node.loop.hub.stats = b.loop.hub.stats := by
    have same := (World.hub_step_idle idle).1
    rwa [← (b.equipped.world_step move).2] at same
  have outbox : (b.equipped.step (.world move)).2.node.outbox = b.equipped.node.outbox := by
    rw [Venue.node_idle idle]
  refine ⟨by simp [worldStep, World.reports_idle idle], ?_⟩
  simp only [worldStep, desk, loop] at stats ⊢
  rw [stats, outbox, getD_equipped]

/-- The broadcasts that a request adds to the outbox. -/
def shared (b : Bridgehead) (command : Command) : List Envelope :=
  if b.attached then command.envelope?.toList.filter Envelope.isLocal else []

theorem shared_cases (b : Bridgehead) (command : Command) :
    b.shared command = [] ∨ ∃ envelope, b.shared command = [envelope] := by
  unfold shared
  split
  · cases command with
    | broadcast envelope =>
        cases here : envelope.isLocal <;> simp [Command.envelope?, here]
    | _ => exact .inl rfl
  · exact .inl rfl

theorem offered_shared (b : Bridgehead) (command : Command) :
    (b.loop.hub.process b.equipped.node.fanout command b.venue.queues).events.filterMap
        Event.offered? = (b.shared command).map (·, b.bridge.outbox.accepts) := by
  simp only [Node.fanout, equipped, shared]
  cases b.attached with
  | true => exact Hub.filterMap_offered ..
  | false => exact Hub.filterMap_offered_none ..

theorem stats_shared (b : Bridgehead) (command : Command) :
    let stats :=
      (b.loop.hub.process b.equipped.node.fanout command b.venue.queues).hub.stats
    let accepted := b.bridge.outbox.accepts
    stats.published = b.loop.hub.stats.published +
        (if accepted then (b.shared command).length else 0) ∧
      stats.unpublished = b.loop.hub.stats.unpublished +
        (if accepted then 0 else (b.shared command).length) := by
  simp only [Hub.stats_process, Node.fanout, equipped, shared]
  cases command with
  | broadcast envelope =>
      cases here : envelope.isLocal <;> cases b.attached <;>
        cases accepts : b.bridge.outbox.accepts <;> simp [Command.envelope?, here, accepts]
  | _ => simp [Command.envelope?]

theorem getD_offers (b : Bridgehead) (command : Command) :
    (b.equipped.node.outbox.map (·.offers (b.shared command))).getD b.bridge.outbox =
      b.bridge.outbox.offers (b.shared command) := by
  simp only [equipped, shared]
  cases b.attached <;> rfl

/-- A step of the world in which the hub processes a request. -/
theorem worldStep_processing {b : Bridgehead} (answer : Option Bool) {command : Command}
    (processed : b.equipped.world.processing? (.advance b.equipped.node.fanout) = some command) :
    let accepted := b.bridge.outbox.accepts
    let count := (b.shared command).length
    posts (b.worldStep (.advance answer)).1 = (b.shared command).map (fun envelope =>
        .offered true envelope.room envelope.payload accepted) ∧
      (b.worldStep (.advance answer)).2.desk = { b.desk with
        outbox := b.bridge.outbox.offers (b.shared command)
        published := b.loop.hub.stats.published + if accepted then count else 0
        unpublished := b.loop.hub.stats.unpublished + if accepted then 0 else count } := by
  have offered := b.offered_shared command
  obtain ⟨published, unpublished⟩ := b.stats_shared command
  have node := Venue.node_processing answer processed
  have hub : (b.equipped.step (.world (.advance answer))).2.node.loop.hub =
      (b.loop.hub.process b.equipped.node.fanout command b.venue.queues).hub := by
    rw [node]
    exact congrArg EventLoop.hub (Node.loop_foldl_absorb _)
  have outbox : (b.equipped.step (.world (.advance answer))).2.node.outbox =
      b.equipped.node.outbox.map (·.offers (b.shared command)) := by
    have same : ((b.loop.hub.process b.equipped.node.fanout command b.venue.queues).events.filterMap
        Event.offered?).map Prod.fst = b.shared command := by
      simp [offered, Function.comp_def]
    rw [← same, node]
    exact Node.outbox_foldl_offers _
  constructor
  · have marks : (b.worldStep (.advance answer)).1 =
        (b.loop.hub.process b.equipped.node.fanout command b.venue.queues).events.filterMap
          BridgeheadMark.ofReport? := congrArg _ (World.reports_processing processed)
    rw [marks, posts_reports, offered, List.map_map]
    rfl
  · rw [← published, ← unpublished, ← hub, ← getD_offers, ← outbox]
    rfl

theorem posting_worldStep (b : Bridgehead) (move : WorldMove) :
    Posting id naming b.desk (posts (b.worldStep move).1) (b.worldStep move).2.desk := by
  cases processed : b.equipped.world.processing? (b.equipped.actual move) with
  | none =>
      obtain ⟨marks, same⟩ := worldStep_idle processed
      rw [marks, same]
      exact .idle
  | some command =>
      obtain ⟨fanout, rest, advances, -, -⟩ := World.processing?_eq_some processed
      cases move with
      | advance answer =>
          obtain ⟨marks, next⟩ := worldStep_processing answer processed
          rw [marks, next]
          obtain none | ⟨envelope, one⟩ := b.shared_cases command
          · simp only [none, List.length_nil, ite_self, Nat.add_zero]
            exact .idle
          · rw [one]
            exact .offered true envelope.room envelope.payload
      | _ => exact nomatch advances

theorem posting_conclude {b : Bridgehead} (drained : Bool) (running : b.bridge.ended = false)
    (nothing : drained = true → b.bridge.publisher.batch ++ b.bridge.outbox.waiting = []) :
    Posting id naming b.desk (posts (b.conclude drained).1) (b.conclude drained).2.desk := by
  have silent (marks : List HearMark) : posts (marks.map .hear) = [] := by
    simp [posts, BridgeheadMark.post?]
  have counted : (b.conclude drained).2.loop.hub = b.loop.hub := by
    simp only [conclude, loop, withLoop]
    split <;> rfl
  have after : (b.conclude drained).2.desk = { b.desk with
      outbox := b.desk.outbox.abandon
      publisher := { b.desk.publisher with batch := [] }
      ended := true
      sending := false } := by
    simp only [desk, counted]
    rfl
  rw [after, conclude, posts_append, silent]
  exact .ended drained running nothing

theorem posting_desert {b : Bridgehead} (running : b.bridge.ended = false) :
    Posting id naming b.desk (posts b.desert.1) b.desert.2.desk :=
  posting_conclude false running nofun

/-- A bridge has ended when its subscriber has stopped, and only then. -/
def Closed (b : Bridgehead) : Prop :=
  b.bridge.ended = true ↔ b.bridge.subscriber.phase = .stopped

theorem Closed.running {b : Bridgehead} (closed : b.Closed)
    (alive : b.bridge.subscriber.phase ≠ .stopped) : b.bridge.ended = false :=
  Bool.eq_false_of_not_eq_true fun ended => alive (closed.mp ended)

/-- A step in which the bridge goes on. -/
theorem Closed.living {b next : Bridgehead} (closed : b.Closed)
    (alive : b.bridge.subscriber.phase ≠ .stopped) (same : next.bridge.ended = b.bridge.ended)
    (goesOn : next.bridge.subscriber.phase ≠ .stopped) : next.Closed := by
  rw [Closed, same, closed.running alive]
  exact iff_of_false nofun goesOn

theorem Closed.desert {b : Bridgehead} {envelope : Envelope}
    (relaying : b.bridge.subscriber.phase = .relaying envelope) : b.desert.2.Closed := by
  apply iff_of_true rfl
  simp [Bridgehead.desert, withSubscriber, Subscriber.relay_of_relaying relaying]

section

variable {b next : Bridgehead} {move : BridgeheadMove} {marks : List BridgeheadMark}

theorem Stepping.closed (stepping : Stepping id naming b move marks next) (closed : b.Closed) :
    next.Closed := by
  cases stepping with
  | idle | world | offered | letGo | collected | sent | settled | handed => exact closed
  | finished | gone => exact iff_of_true rfl rfl
  | dialled idle => exact closed.living (SubscriberPhase.ne_of_isIdle idle) rfl nofun
  | listening connecting =>
      rw [Subscriber.listen_of_connecting connecting]
      exact closed.living (by simp [connecting]) rfl nofun
  | failed isOpen =>
      rw [Subscriber.fail_of_isOpen isOpen]
      exact closed.living (SubscriberPhase.ne_of_isOpen isOpen) rfl nofun
  | received listening channel data =>
      exact closed.living (by simp [listening]) rfl
        (Subscriber.receive_ne_stopped id naming listening channel data)
  | relayed relaying =>
      rw [Subscriber.relay_of_relaying relaying]
      exact closed.living (by simp [relaying]) rfl nofun
  | deserted _ relaying => exact .desert relaying

theorem Stepping.posting (stepping : Stepping id naming b move marks next) (closed : b.Closed) :
    Posting id naming b.desk (posts marks) next.desk := by
  cases stepping with
  | world move => exact b.posting_worldStep move
  | offered room payload =>
      have answer : (b.bridge.outbox.offer room payload).1 = b.bridge.outbox.accepts := by
        unfold Outbox.offer
        split <;> simp [*]
      have same : b.desk.offer false room payload =
          { b.desk with outbox := (b.bridge.outbox.offer room payload).2 } := by
        simp [Desk.offer, desk]
      have offered : Posting id naming b.desk [.offered false room payload _] _ :=
        .offered false room payload
      rw [answer]
      rw [same] at offered
      exact offered
  | collected gathering => exact .collected gathering
  | sent some => exact .sent some
  | settled sending outcome => exact .settled sending outcome
  | finished running nothing => exact posting_conclude true running fun _ => nothing
  | gone idle =>
      have running : b.retired.bridge.ended = false :=
        closed.running (SubscriberPhase.ne_of_isIdle idle)
      exact posting_conclude false running nofun
  | deserted _ relaying => exact posting_desert (closed.running (by simp [relaying]))
  | _ => exact .idle

end

/-- The subscriber ended the bridge. -/
def Abandoned (log : List BridgeheadMark) : Prop := ∃ lost, .post (.ended false lost) ∈ log

theorem abandoned_append {log marks : List BridgeheadMark} :
    Abandoned (log ++ marks) ↔ Abandoned log ∨ Abandoned marks := by
  simp only [Abandoned, List.mem_append, exists_or]

theorem not_abandoned_worldStep (b : Bridgehead) (move : WorldMove) :
    ¬Abandoned (b.worldStep move).1 := by
  rintro ⟨lost, member⟩
  obtain ⟨event, -, read⟩ := List.mem_filterMap.mp member
  cases event <;> simp [BridgeheadMark.ofReport?, Event.offered?] at read

theorem not_abandoned_drained (b : Bridgehead) : ¬Abandoned (b.conclude true).1 := by
  simp [Abandoned, conclude]

/-- The subscriber ends the bridge in two ways: when it is about to try again, or with an envelope
    in its hands. In either case there is no hub. -/
theorem Stepping.abandoned_cases {b next : Bridgehead} {move : BridgeheadMove}
    {marks : List BridgeheadMark} (stepping : Stepping id naming b move marks next)
    (abandoned : Abandoned marks) :
    (b.loop.canUpgrade = false ∨ b.loop.running = false) ∧
      (b.bridge.subscriber.phase.isIdle = true ∧ next = (b.retired.conclude false).2 ∨
        ∃ envelope, b.bridge.subscriber.phase = .relaying envelope ∧ next = b.desert.2) := by
  cases stepping with
  | gone idle unheld => exact ⟨.inl unheld, .inl ⟨idle, rfl⟩⟩
  | deserted _ relaying missing => exact ⟨missing, .inr ⟨_, relaying, rfl⟩⟩
  | world move => exact absurd abandoned (b.not_abandoned_worldStep move)
  | finished => exact absurd abandoned b.not_abandoned_drained
  | _ => simp [Abandoned] at abandoned

theorem hears_conclude (b : Bridgehead) (drained : Bool) :
    hears (b.conclude drained).1 = b.bridge.subscriber.underway.map (.missed · b.holding) := by
  have own (marks : List HearMark) : hears (marks.map .hear) = marks := by
    rw [hears, List.filterMap_map]
    exact List.filterMap_some
  rw [conclude, hears_append, own]
  exact List.append_nil _

theorem hearing_worldStep (b : Bridgehead) (move : WorldMove) :
    Hearing id naming b.bridge.subscriber b.holding (hears (b.worldStep move).1)
      (b.worldStep move).2.bridge.subscriber (b.worldStep move).2.holding := by
  have silent (events : List Event) : hears (events.filterMap BridgeheadMark.ofReport?) = [] := by
    induction events with
    | nil => rfl
    | cons event events ih => cases event <;> exact ih
  rw [show hears (b.worldStep move).1 = [] from silent _]
  exact .idle _

theorem hearing_desert {b : Bridgehead} {envelope : Envelope}
    (relaying : b.bridge.subscriber.phase = .relaying envelope) :
    Hearing id naming b.bridge.subscriber b.holding (hears b.desert.1)
      b.desert.2.bridge.subscriber b.desert.2.holding := by
  have marks : hears b.desert.1 = [.returned none, .missed envelope b.holding] := by
    have ends := b.hears_conclude false
    rw [Subscriber.underway, relaying] at ends
    exact congrArg (HearMark.returned none :: ·) ends
  rw [marks]
  exact .missed _ relaying

theorem Stepping.hearing {b next : Bridgehead} {move : BridgeheadMove}
    {marks : List BridgeheadMark} (stepping : Stepping id naming b move marks next) :
    Hearing id naming b.bridge.subscriber b.holding (hears marks) next.bridge.subscriber
      next.holding := by
  cases stepping with
  | world move => exact b.hearing_worldStep move
  | finished =>
      rw [hears_conclude]
      exact .dropped _
  | dialled idle => exact .dialled _ idle
  | gone idle =>
      rw [hears_conclude]
      exact .gone _ idle
  | listening connecting => exact .listening _ connecting
  | failed isOpen cause jitter => exact .failed _ cause jitter isOpen
  | received listening channel data => exact .received _ channel data listening
  | handed relaying free =>
      rw [free]
      exact .handed relaying
  | relayed relaying held =>
      rw [held]
      exact .relayed relaying
  | deserted _ relaying => exact hearing_desert relaying
  | _ => exact .idle _

end Bridgehead
end ChatRelay
