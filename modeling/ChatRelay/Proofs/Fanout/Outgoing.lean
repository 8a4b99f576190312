import ChatRelay.Proofs.Fanout.Bridgehead

/-! # What becomes of accepted broadcasts

Every broadcast that the outbox accepts is sent in a batch, or on its way, or waits, and always in
the order of acceptance. When the bridge ends with something under way or waiting, that much is lost
and in no counter; a publisher that comes to its end by itself leaves nothing.
-/

namespace ChatRelay

namespace PostMark

@[simp] def accepted? : PostMark → Option (String × Bytes)
  | offered _ room payload true => some (room, payload)
  | _ => none

@[simp] def isRefusal : PostMark → Bool
  | offered _ _ _ accepted => !accepted
  | _ => false

/-- Whether somebody beside the hub offered the broadcast. -/
@[simp] def isForeign : PostMark → Bool
  | offered byHub _ _ _ => !byHub
  | _ => false

@[simp] def batch? : PostMark → Option (List Redis.Command × Except LinkError Unit)
  | settled commands outcome => some (commands, outcome)
  | _ => none

/-- How the bridge ended, and what it lost. -/
@[simp] def ending? : PostMark → Option (Bool × List (String × Bytes))
  | ended drained lost => some (drained, lost)
  | _ => none

end PostMark

section

variable (posts : List PostMark)

/-- Room and payload of every accepted broadcast, in the order of acceptance. -/
def acceptances : List (String × Bytes) := posts.filterMap PostMark.accepted?

def refusals : Nat := posts.countP PostMark.isRefusal

/-- The batches that are over, and how they went. -/
def batches : List (List Redis.Command × Except LinkError Unit) := posts.filterMap PostMark.batch?

/-- Number of broadcasts in all batches that went like this. -/
def volume (delivered : Bool) : Nat :=
  (((batches posts).filter (·.2.isOk == delivered)).map (·.1.length)).sum

def endings : List (Bool × List (String × Bytes)) := posts.filterMap PostMark.ending?

/-- What was cut off by the end of the bridge. -/
def losses : List (String × Bytes) := (endings posts).flatMap Prod.snd

end

section

variable (posts later : List PostMark)

@[simp] theorem acceptances_append :
    acceptances (posts ++ later) = acceptances posts ++ acceptances later := List.filterMap_append

@[simp] theorem refusals_append : refusals (posts ++ later) = refusals posts + refusals later :=
  List.countP_append

@[simp] theorem batches_append : batches (posts ++ later) = batches posts ++ batches later :=
  List.filterMap_append

@[simp] theorem endings_append : endings (posts ++ later) = endings posts ++ endings later :=
  List.filterMap_append

@[simp] theorem volume_append (delivered : Bool) :
    volume (posts ++ later) delivered = volume posts delivered + volume later delivered := by
  simp [volume]

@[simp] theorem losses_append : losses (posts ++ later) = losses posts ++ losses later := by
  simp [losses]

end

section

variable (mark : PostMark)

@[simp] theorem acceptances_single : acceptances [mark] = mark.accepted?.toList := by
  rw [acceptances, List.filterMap_eq_flatMap_toList, List.flatMap_singleton]

@[simp] theorem refusals_single : refusals [mark] = if mark.isRefusal then 1 else 0 :=
  List.countP_singleton

@[simp] theorem batches_single : batches [mark] = mark.batch?.toList := by
  rw [batches, List.filterMap_eq_flatMap_toList, List.flatMap_singleton]

@[simp] theorem endings_single : endings [mark] = mark.ending?.toList := by
  rw [endings, List.filterMap_eq_flatMap_toList, List.flatMap_singleton]

@[simp] theorem volume_single (delivered : Bool) : volume [mark] delivered =
    match mark.batch? with
    | some (commands, outcome) => if outcome.isOk == delivered then commands.length else 0
    | none => 0 := by
  rw [volume, batches_single]
  cases mark.batch? with
  | none => rfl
  | some batch => cases same : batch.2.isOk == delivered <;> simp [same]

@[simp] theorem losses_single : losses [mark] = mark.ending?.toList.flatMap Prod.snd := by
  simp [losses]

end

/-- Every batch that is over went one way or the other. -/
theorem length_flatMap_batches (posts : List PostMark) :
    ((batches posts).flatMap Prod.fst).length = volume posts true + volume posts false := by
  unfold volume
  induction batches posts with
  | nil => rfl
  | cons batch rest ih =>
      rw [List.flatMap_cons, List.length_append, ih]
      cases went : batch.2.isOk <;> simp [went] <;> omega

/-- The command that sends a broadcast. -/
def publication (id : InstanceId) (naming : ChannelNaming) (entry : String × Bytes) :
    Redis.Command :=
  .publish (Utf8.ofString (naming.channel entry.1)) (Wire.encode id entry.2)

namespace Outbox

variable {outbox : Outbox}

theorem offer_of_accepts (accepts : outbox.accepts = true) (room : String) (payload : Bytes) :
    (outbox.offer room payload).2 =
      { outbox with waiting := outbox.waiting ++ [(room, payload)] } := by
  simp [offer, accepts]

theorem offer_of_refuses (refuses : outbox.accepts = false) (room : String) (payload : Bytes) :
    (outbox.offer room payload).2 = { outbox with refused := outbox.refused + 1 } := by
  simp [offer, refuses]

theorem room_of_accepts (accepts : outbox.accepts = true) {limit : Nat}
    (limited : outbox.limit = some limit) :
    outbox.attended = true ∧ outbox.waiting.length < limit := by
  simpa [Outbox.accepts, limited] using accepts

end Outbox

namespace Desk

variable {id : InstanceId} {naming : ChannelNaming} {capacity : Nat}

@[simp] theorem offer_publisher (desk : Desk) (byHub : Bool) (room : String) (payload : Bytes) :
    (desk.offer byHub room payload).publisher = desk.publisher := rfl

@[simp] theorem offer_ended (desk : Desk) (byHub : Bool) (room : String) (payload : Bytes) :
    (desk.offer byHub room payload).ended = desk.ended := rfl

/-- The calls are counted where they are made. -/
structure Counted (posts : List PostMark) (desk : Desk) : Prop where
  refused : desk.outbox.refused = refusals posts
  hub : (∀ mark ∈ posts, mark.isForeign = false) →
    desk.published = (acceptances posts).length ∧ desk.unpublished = refusals posts

theorem Counted.step {posts marks : List PostMark} {desk next : Desk} (counted : Counted posts desk)
    (posting : Posting id naming desk marks next) : Counted (posts ++ marks) next := by
  have own {marks : List PostMark} (hub : ∀ mark ∈ posts ++ marks, mark.isForeign = false) :=
    counted.hub fun mark member => hub mark (List.mem_append_left marks member)
  cases posting with
  | idle | sent =>
      rw [List.append_nil]
      exact { counted with }
  | collected =>
      have refused : (desk.publisher.collect desk.outbox).2.refused = desk.outbox.refused := by
        unfold Publisher.collect
        split <;> rfl
      rw [List.append_nil]
      exact { counted with refused := refused.trans counted.refused }
  | offered byHub room payload =>
      constructor
      case refused =>
        cases accepts : desk.outbox.accepts <;>
          simp [Desk.offer, Outbox.offer, accepts, counted.refused]
      case hub =>
        intro hub
        obtain ⟨published, unpublished⟩ := own hub
        have mine : byHub = true := by
          simpa using hub (.offered byHub room payload desk.outbox.accepts)
        cases accepts : desk.outbox.accepts <;>
          simp [Desk.offer, accepts, mine, published, unpublished]
  | settled sending outcome =>
      constructor
      case refused => simpa using counted.refused
      case hub =>
        intro hub
        simpa using own hub
  | ended =>
      constructor
      case refused => simpa [Outbox.abandon] using counted.refused
      case hub =>
        intro hub
        simpa using own hub

/-- What every step keeps of the broadcasts themselves. -/
structure Sound (id : InstanceId) (naming : ChannelNaming) (capacity : Nat) (posts : List PostMark)
    (desk : Desk) : Prop where
  order : (acceptances posts).map (publication id naming) =
    (batches posts).flatMap Prod.fst ++ (losses posts ++ desk.publisher.batch ++
      desk.outbox.waiting).map (publication id naming)
  limit : desk.outbox.limit = some (max capacity 1)
  room : desk.outbox.waiting.length ≤ max capacity 1
  current : desk.publisher.batch.length ≤ Publisher.batchLimit
  sizes : ∀ batch ∈ batches posts, batch.1 ≠ [] ∧ batch.1.length ≤ Publisher.batchLimit
  sending : desk.sending = true → desk.publisher.batch ≠ []
  running : desk.ended = false → endings posts = []
  closed : desk.ended = true → desk.publisher.batch = [] ∧ desk.outbox.waiting = [] ∧
    desk.outbox.attended = false ∧ ∃ drained lost, endings posts = [(drained, lost)] ∧
      (drained = true → lost = [])
  published : desk.publisher.published = volume posts true
  failed : desk.publisher.failed = volume posts false

namespace Sound

variable {posts : List PostMark} {desk : Desk}

theorem start (node : Node) (commandCapacity : Nat) (attached held : Bool) :
    Sound id naming capacity []
      (Bridgehead.start node commandCapacity capacity attached held).desk := by
  constructor <;>
    simp [Bridgehead.desk, Bridgehead.start, Outbox.ofCapacity, acceptances, batches, losses,
      endings, volume]

theorem running_of_busy (sound : Sound id naming capacity posts desk)
    (busy : desk.publisher.batch ≠ [] ∨ desk.outbox.attended = true) : desk.ended = false := by
  cases ended : desk.ended with
  | false => rfl
  | true =>
      obtain ⟨batch, -, left, -⟩ := sound.closed ended
      cases busy with
      | inl some => exact absurd batch some
      | inr attended => cases attended.symm.trans left

/-- A broadcast that is accepted comes last of all. -/
theorem accept (sound : Sound id naming capacity posts desk) (accepts : desk.outbox.accepts = true)
    (byHub : Bool) (room : String) (payload : Bytes) :
    Sound id naming capacity (posts ++ [.offered byHub room payload true])
      (desk.offer byHub room payload) := by
  obtain ⟨attended, fits⟩ := Outbox.room_of_accepts accepts sound.limit
  have running := sound.running_of_busy (.inr attended)
  have outbox := Outbox.offer_of_accepts accepts room payload
  constructor
  case order => simp [Desk.offer, outbox, sound.order]
  case limit =>
    rw [Desk.offer, outbox]
    exact sound.limit
  case room =>
    rw [Desk.offer, outbox, List.length_append]
    exact fits
  case current => exact sound.current
  case sizes => simpa using sound.sizes
  case sending => exact sound.sending
  case running => simpa using sound.running
  case closed => simp [Desk.offer, running]
  case published => simpa using sound.published
  case failed => simpa using sound.failed

theorem refuse (sound : Sound id naming capacity posts desk) (refuses : desk.outbox.accepts = false)
    (byHub : Bool) (room : String) (payload : Bytes) :
    Sound id naming capacity (posts ++ [.offered byHub room payload false])
      (desk.offer byHub room payload) := by
  have outbox := Outbox.offer_of_refuses refuses room payload
  constructor
  case order => simp [Desk.offer, outbox, sound.order]
  case sizes => simpa using sound.sizes
  case running => simpa using sound.running
  case published => simpa using sound.published
  case failed => simpa using sound.failed
  case limit =>
    rw [Desk.offer, outbox]
    exact sound.limit
  case room =>
    rw [Desk.offer, outbox]
    exact sound.room
  case current => exact sound.current
  case sending => exact sound.sending
  case closed => simpa [Desk.offer, outbox] using sound.closed

/-- A broadcast that is taken out of the outbox comes last in the batch. -/
theorem collect (sound : Sound id naming capacity posts desk) :
    Sound id naming capacity posts { desk with
      publisher := (desk.publisher.collect desk.outbox).1
      outbox := (desk.publisher.collect desk.outbox).2 } := by
  unfold Publisher.collect
  split
  · next notFull =>
    simp only [Outbox.take]
    constructor
    case order =>
      rw [sound.order]
      simp only [List.append_assoc, List.take_append_drop]
    case limit => exact sound.limit
    case room =>
      have before := sound.room
      rw [List.length_drop]
      omega
    case current =>
      have one := List.length_take_le 1 desk.outbox.waiting
      rw [List.length_append]
      omega
    case sizes => exact sound.sizes
    case sending =>
      intro sending
      simp [sound.sending sending]
    case running => exact sound.running
    case closed =>
      intro ended
      obtain ⟨batch, waiting, rest⟩ := sound.closed ended
      simp only [batch, waiting]
      exact ⟨rfl, rfl, rest⟩
    case published => exact sound.published
    case failed => exact sound.failed
  · exact sound

theorem settle (sound : Sound id naming capacity posts desk) (sending : desk.sending = true)
    (outcome : Except LinkError Unit) :
    Sound id naming capacity
      (posts ++ [.settled (desk.publisher.commands id naming) outcome])
      { desk with publisher := desk.publisher.settle outcome.isOk, sending := false } := by
  -- There is a batch, so the bridge has not ended and nothing is lost yet.
  have some := sound.sending sending
  have running := sound.running_of_busy (.inl some)
  have lost : losses posts = [] := by
    rw [losses, sound.running running]
    rfl
  have commands : desk.publisher.commands id naming =
      desk.publisher.batch.map (publication id naming) := rfl
  have batch : (desk.publisher.settle outcome.isOk).batch = [] := by
    unfold Publisher.settle
    split <;> rfl
  constructor
  case order =>
    simp [sound.order, lost, batch, commands]
  case limit => exact sound.limit
  case room => exact sound.room
  case current => simp [batch]
  case sizes =>
    intro finished member
    simp only [batches_append, batches_single, PostMark.batch?, Option.toList_some,
      List.mem_append, List.mem_singleton] at member
    obtain old | rfl := member
    · exact sound.sizes finished old
    · simpa [commands, some] using sound.current
  case sending => exact nofun
  case running => simpa using sound.running
  case closed => simp [running]
  case published =>
    cases outcome <;> simp [Publisher.settle, Except.isOk, Except.toBool, sound.published, commands]
  case failed =>
    cases outcome <;> simp [Publisher.settle, Except.isOk, Except.toBool, sound.failed, commands]

theorem conclude (sound : Sound id naming capacity posts desk) {drained : Bool}
    (running : desk.ended = false)
    (nothing : drained = true → desk.publisher.batch ++ desk.outbox.waiting = []) :
    Sound id naming capacity
      (posts ++ [.ended drained (desk.publisher.batch ++ desk.outbox.waiting)])
      { desk with
        outbox := desk.outbox.abandon
        publisher := { desk.publisher with batch := [] }
        ended := true
        sending := false } := by
  have first := sound.running running
  constructor
  case order =>
    simp [sound.order, Outbox.abandon]
  case limit => exact sound.limit
  case room => exact Nat.zero_le _
  case current => exact Nat.zero_le _
  case sizes => simpa using sound.sizes
  case sending => exact nofun
  case running => exact nofun
  case closed =>
    intro _
    refine ⟨rfl, rfl, rfl, drained, _, ?_, nothing⟩
    simp [first]
  case published => simpa using sound.published
  case failed => simpa using sound.failed

theorem step (sound : Sound id naming capacity posts desk) {marks : List PostMark} {next : Desk}
    (posting : Posting id naming desk marks next) :
    Sound id naming capacity (posts ++ marks) next := by
  cases posting with
  | idle => rwa [List.append_nil]
  | offered byHub room payload =>
      cases accepts : desk.outbox.accepts with
      | true => exact sound.accept accepts byHub room payload
      | false => exact sound.refuse accepts byHub room payload
  | collected =>
      rw [List.append_nil]
      exact sound.collect
  | sent some =>
      rw [List.append_nil]
      exact { sound with sending := fun _ => some }
  | settled sending outcome => exact sound.settle sending outcome
  | ended drained running nothing => exact sound.conclude running nothing

end Sound
end Desk

namespace Bridgehead

variable {id : InstanceId} {naming : ChannelNaming}

/-- There is no hub to relay to. -/
def Deserted (b : Bridgehead) : Prop := b.loop.canUpgrade = false ∨ b.loop.running = false

theorem Deserted.worldStep {b : Bridgehead} (deserted : b.Deserted) (move : WorldMove) :
    (b.worldStep move).2.Deserted := by
  have loop : (b.worldStep move).2.loop =
      (b.equipped.world.step (b.equipped.actual move)).loop :=
    congrArg World.loop (b.equipped.world_step move).2
  rw [Deserted, loop]
  cases deserted with
  | inl unheld => exact .inl (World.unheld_step unheld _)
  | inr ended =>
      right
      cases runs : (b.equipped.world.step (b.equipped.actual move)).loop.running with
      | false => rfl
      | true => exact nomatch ended.symm.trans (World.running_of_step runs)

/-- A handle less does not bring the hub back. -/
theorem Deserted.drop {b : Bridgehead} (deserted : b.Deserted) :
    b.loop.drop.canUpgrade = false ∨ b.loop.drop.running = false := by
  cases deserted with
  | inl unheld =>
      have none : b.loop.handles = 0 := by simpa [EventLoop.canUpgrade] using unheld
      exact .inl (by simp [EventLoop.drop, EventLoop.canUpgrade, none])
  | inr ended => exact .inr ended

theorem Deserted.conclude {b : Bridgehead} (deserted : b.Deserted) (drained : Bool) :
    (b.conclude drained).2.Deserted := by
  have dropped := deserted.drop
  unfold Bridgehead.conclude
  cases b.holding with
  | true => exact dropped
  | false => exact deserted

section

variable {b next : Bridgehead} {move : BridgeheadMove} {marks : List BridgeheadMark}

/-- The hub does not come back. -/
theorem Stepping.stays_deserted (stepping : Stepping id naming b move marks next)
    (deserted : b.Deserted) : next.Deserted := by
  have retired : b.retired.Deserted := deserted
  cases stepping with
  | world move => exact deserted.worldStep move
  | finished => exact deserted.conclude true
  | gone => exact retired.conclude false
  | deserted => exact deserted.conclude false
  | relayed => exact deserted.drop
  | handed _ _ found =>
      cases deserted with
      | inl unheld => cases found.symm.trans unheld
      | inr ended => exact .inr ended
  | _ => exact deserted

theorem Stepping.deserted_of_abandoned (stepping : Stepping id naming b move marks next)
    (abandoned : Abandoned marks) : next.Deserted := by
  obtain ⟨deserted, -⟩ := stepping.abandoned_cases abandoned
  exact stepping.stays_deserted deserted

end

theorem abandoned_of_endings {log : List BridgeheadMark} {lost : List (String × Bytes)}
    (member : (false, lost) ∈ endings (posts log)) : Abandoned log := by
  obtain ⟨post, posted, read⟩ := List.mem_filterMap.mp member
  obtain ⟨mark, marked, same⟩ := List.mem_filterMap.mp posted
  cases mark with
  | hear mark => exact nomatch same
  | post mark =>
      cases same
      cases post with
      | ended drained cut =>
          cases read
          exact ⟨lost, marked⟩
      | _ => exact nomatch read

/-- What every step keeps. -/
structure Orderly (id : InstanceId) (naming : ChannelNaming) (capacity : Nat)
    (log : List BridgeheadMark) (b : Bridgehead) : Prop where
  closed : b.Closed
  counted : Desk.Counted (posts log) b.desk
  sound : Desk.Sound id naming capacity (posts log) b.desk
  deserted : Abandoned log → b.Deserted

theorem orderly (id : InstanceId) (naming : ChannelNaming) (node : Node)
    (commandCapacity capacity : Nat) (attached held : Bool) (moves : List BridgeheadMove) :
    let (log, last) :=
      play (step id naming) (start node commandCapacity capacity attached held) moves
    Orderly id naming capacity log last := by
  refine play_induction (motive := Orderly id naming capacity) ?_ ?_ moves
  · intro log b move ⟨closed, counted, sound, deserted⟩
    have stepping : Stepping id naming b move _ _ := b.stepping move
    have posted := stepping.posting closed
    constructor
    case closed => exact stepping.closed closed
    case counted =>
      rw [posts_append]
      exact counted.step posted
    case sound =>
      rw [posts_append]
      exact sound.step posted
    case deserted =>
      intro abandoned
      obtain before | now := abandoned_append.mp abandoned
      · exact stepping.stays_deserted (deserted before)
      · exact stepping.deserted_of_abandoned now
  · exact ⟨⟨nofun, nofun⟩, ⟨rfl, fun _ => ⟨rfl, rfl⟩⟩, .start node commandCapacity attached held,
      fun ⟨_, never⟩ => nomatch never⟩

/-- The order and the numbers of what the outbox and the publisher do. -/
structure Conveyed (id : InstanceId) (naming : ChannelNaming) (capacity : Nat)
    (posts : List PostMark) (b : Bridgehead) : Prop where
  /-- While the bridge runs, what was accepted is in a finished batch, in the current one or in the
      outbox, in the order of acceptance. -/
  order : b.bridge.ended = false → (acceptances posts).map (publication id naming) =
    (batches posts).flatMap Prod.fst ++ b.bridge.publisher.commands id naming ++
      b.bridge.outbox.waiting.map (publication id naming)
  /-- What was sent is the oldest part of it, also afterwards. -/
  sent : (batches posts).flatMap Prod.fst <+: (acceptances posts).map (publication id naming)
  sizes : ∀ batch ∈ batches posts, 1 ≤ batch.1.length ∧ batch.1.length ≤ 64
  current : b.bridge.publisher.batch.length ≤ 64
  sending : b.sending = true → 1 ≤ b.bridge.publisher.batch.length
  room : b.bridge.outbox.waiting.length ≤ max capacity 1
  published : b.bridge.status.published = volume posts true
  publishErrors : b.bridge.status.publishErrors = volume posts false
  dropped : b.bridge.status.dropped = refusals posts
  /-- If nobody but the hub puts anything into the outbox, its own counters say the same. -/
  hub : (∀ mark ∈ posts, mark.isForeign = false) →
    b.loop.hub.stats.published = (acceptances posts).length ∧
      b.loop.hub.stats.unpublished = refusals posts

/-- However the calls, the publisher and the outcomes of the batches fall together, nothing that was
    accepted is lost, repeated or overtaken while the bridge runs, and everything is counted. -/
theorem accepted_broadcasts_are_conveyed (id : InstanceId) (naming : ChannelNaming) (node : Node)
    (commandCapacity capacity : Nat) (attached held : Bool) (moves : List BridgeheadMove) :
    let (log, last) :=
      play (step id naming) (start node commandCapacity capacity attached held) moves
    Conveyed id naming capacity (posts log) last := by
  obtain ⟨-, counted, sound, -⟩ :=
    orderly id naming node commandCapacity capacity attached held moves
  generalize play (step id naming) _ moves = run at counted sound ⊢
  obtain ⟨log, last⟩ := run
  have commands : last.bridge.publisher.commands id naming =
      last.bridge.publisher.batch.map (publication id naming) := rfl
  constructor
  case order =>
    intro running
    have lost : losses (posts log) = [] := by
      rw [losses, sound.running running]
      rfl
    simp [sound.order, lost, commands, desk]
  case sent => exact ⟨_, sound.order.symm⟩
  case sizes =>
    intro batch member
    obtain ⟨some, few⟩ := sound.sizes batch member
    exact ⟨List.length_pos_iff.mpr some, few⟩
  case current => exact sound.current
  case sending =>
    intro sending
    exact List.length_pos_iff.mpr (sound.sending sending)
  case room => exact sound.room
  case published => exact sound.published
  case publishErrors => exact sound.failed
  case dropped => exact counted.refused
  case hub => exact counted.hub

/-- What becomes of all that was accepted until the bridge ends, and then. -/
structure Settled (posts : List PostMark) (b : Bridgehead) : Prop where
  running : b.bridge.ended = false → endings posts = [] ∧
    (acceptances posts).length = b.bridge.status.published + b.bridge.status.publishErrors +
      b.bridge.publisher.batch.length + b.bridge.outbox.waiting.length
  /-- If the publisher came to its end first, everything is counted. Otherwise the subscriber found
      no hub, and what was under way or waited at that moment is in no counter. -/
  ended : b.bridge.ended = true → ∃ drained lost, endings posts = [(drained, lost)] ∧
    (acceptances posts).length =
      b.bridge.status.published + b.bridge.status.publishErrors + lost.length ∧
    (drained = true → lost = []) ∧ (drained = false → b.Deserted)

/-- What was accepted is counted, except for what the subscriber cuts off when it ends the bridge
    for want of a hub. -/
theorem losses_are_what_the_end_cuts_off (id : InstanceId) (naming : ChannelNaming) (node : Node)
    (commandCapacity capacity : Nat) (attached held : Bool) (moves : List BridgeheadMove) :
    let (log, last) :=
      play (step id naming) (start node commandCapacity capacity attached held) moves
    Settled (posts log) last := by
  obtain ⟨-, -, sound, deserted⟩ :=
    orderly id naming node commandCapacity capacity attached held moves
  generalize play (step id naming) _ moves = run at sound deserted ⊢
  obtain ⟨log, last⟩ := run
  have total : (acceptances (posts log)).length = last.bridge.status.published +
      last.bridge.status.publishErrors + (losses (posts log)).length +
      last.bridge.publisher.batch.length + last.bridge.outbox.waiting.length := by
    have lengths := congrArg List.length sound.order
    have published : last.bridge.status.published = volume (posts log) true := sound.published
    have failed : last.bridge.status.publishErrors = volume (posts log) false := sound.failed
    simp only [List.length_map, List.length_append, length_flatMap_batches, desk] at lengths
    omega
  constructor
  case running =>
    intro running
    have none := sound.running running
    rw [losses, none] at total
    exact ⟨none, total⟩
  case ended =>
    intro ended
    obtain ⟨batch, waiting, -, drained, lost, one, nothing⟩ := sound.closed ended
    have batch : last.bridge.publisher.batch = [] := batch
    have waiting : last.bridge.outbox.waiting = [] := waiting
    refine ⟨drained, lost, one, ?_, nothing, ?_⟩
    · simpa [losses, one, batch, waiting] using total
    · rintro rfl
      exact deserted (abandoned_of_endings (one ▸ List.mem_singleton_self _))

/-- The hub accepts a broadcast and is let go while the batch is on its way. The subscriber, whose
    pause is over, finds no hub and ends the bridge, and no counter tells of the broadcast. -/
theorem broadcast_lost_uncounted :
    let node : Node := { id := .zero, loop := .ofCapacity 8 }
    let refused : BridgeError := .link (.timeout (.ofMillis 600))
    let moves : List BridgeheadMove :=
      [.wake, .fail refused 1, .world (.submit (.broadcast ⟨"R", [112], .here⟩)),
        .world (.advance none), .collect, .send, .world .drop, .world (.advance none), .wake]
    let (log, last) := play (step .zero .default) (start node 8 1024 true false) moves
    last.bridge.ended = true ∧ (acceptances (posts log)).length = 1 ∧
      last.bridge.status.published + last.bridge.status.publishErrors = 0 := by
  decide +kernel

end Bridgehead
end ChatRelay
