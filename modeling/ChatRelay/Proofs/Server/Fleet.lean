import ChatRelay.Proofs.Fanout.Acceptance
import ChatRelay.Proofs.Fanout.Wire
import ChatRelay.Proofs.Run
import ChatRelay.Proofs.Server.Voices

/-! # What connections say is text

Instances on one bus, each with its connections and with others who submit to its hub, offer to its
queues or put data on the bus, all taking their steps in any order.

Nothing on the way changes a payload, not even the bus. What a pump brings in is text, so a
connection is only sent binary data for a payload that somebody else has brought in.
-/

namespace ChatRelay

open Utf8 (IsText)

/-- Instances and what was put on their bus, channel and data each. -/
structure Fleet (sites : Nat) where
  board : Fin sites → Switchboard
  bus : List (String × Bytes) := []

inductive FleetMove (sites : Nat) where
  /-- A step at one instance. -/
  | within (index : Fin sites) (move : SwitchboardMove)
  /-- The subscriber of an instance gets something that is on the bus. -/
  | relay (index : Fin sites) (place : Nat)
  /-- Somebody else puts something on the bus. -/
  | strange (channel : String) (data : Bytes)

inductive FleetNotice (sites : Nat) where
  /-- The pump of a connection got a payload into the channel of its hub. -/
  | spoke (index : Fin sites) (client : ClientId) (payload : Bytes)
  /-- Somebody else brought a payload in. -/
  | gave (payload : Bytes)
  /-- A hub with its clients took a step. -/
  | moved (index : Fin sites) (move : WorldMove)

namespace FleetNotice

variable {sites : Nat}

/-- Who brought a payload in. -/
def ofVoiced (index : Fin sites) : Option ClientId × Bytes → FleetNotice sites
  | (some client, payload) => spoke index client payload
  | (none, payload) => gave payload

def spoken? : FleetNotice sites → Option Bytes
  | spoke _ _ payload => some payload
  | _ => none

def given? : FleetNotice sites → Option Bytes
  | gave payload => some payload
  | _ => none

def move? (index : Fin sites) : FleetNotice sites → Option WorldMove
  | moved other move => if other = index then some move else none
  | _ => none

/-- The payloads that the pumps of connections brought in. -/
def spoken (log : List (FleetNotice sites)) : List Bytes := log.filterMap spoken?

/-- The payloads that others brought in. -/
def given (log : List (FleetNotice sites)) : List Bytes := log.filterMap given?

/-- The steps of one hub with its clients. -/
def moves (log : List (FleetNotice sites)) (index : Fin sites) : List WorldMove :=
  log.filterMap (move? index)

/-- Somebody has brought a payload in. -/
def Known (log : List (FleetNotice sites)) (payload : Bytes) : Prop :=
  payload ∈ spoken log ∨ payload ∈ given log

variable {log later : List (FleetNotice sites)} {index : Fin sites} {payload : Bytes}

theorem mem_spoken_append :
    payload ∈ spoken (log ++ later) ↔ payload ∈ spoken log ∨ payload ∈ spoken later := by
  rw [spoken, List.filterMap_append, List.mem_append]
  rfl

theorem moves_append : moves (log ++ later) index = moves log index ++ moves later index :=
  List.filterMap_append

theorem known_append : Known (log ++ later) payload ↔ Known log payload ∨ Known later payload := by
  simp only [Known, spoken, given, List.filterMap_append, List.mem_append]
  exact or_or_or_comm

theorem Known.append (known : Known log payload) : Known (log ++ later) payload :=
  known_append.mpr (.inl known)

theorem mem_spoken_ofVoiced {voice : Option (Option ClientId × Bytes)} :
    payload ∈ spoken (voice.toList.map (ofVoiced index)) ↔
      ∃ client, voice = some (some client, payload) := by
  rcases voice with _ | ⟨_ | client, said⟩
  · simp [spoken]
  · simp [spoken, ofVoiced, spoken?]
  · simp [spoken, ofVoiced, spoken?, eq_comm]

theorem known_ofVoiced (author : Option ClientId) :
    Known [ofVoiced index (author, payload)] payload := by
  cases author with
  | none => exact .inr List.mem_cons_self
  | some client => exact .inl List.mem_cons_self

/-- Who brought in what is no step of a hub. -/
theorem moves_ofVoiced (voice : Option (Option ClientId × Bytes)) (other : Fin sites) :
    moves (voice.toList.map (ofVoiced index)) other = [] := by
  rcases voice with _ | ⟨_ | client, said⟩ <;> rfl

end FleetNotice

namespace Fleet

open FleetNotice

variable {sites : Nat} (node : Fin sites → Node)

/-- Hubs that have just started, and nothing on the bus. -/
def start : Fleet sites where
  board index := .start (node index).config.commandCapacity

/-- A step at one instance, with what it lets the hub put on the bus. -/
def turn (fleet : Fleet sites) (index : Fin sites) (move : SwitchboardMove) :
    List (FleetNotice sites) × Fleet sites :=
  (((fleet.board index).worldMove? move).toList.map (.moved index),
    { board := Function.update fleet.board index ((fleet.board index).step move)
      bus := fleet.bus ++ (fleet.board index).posts (node index) move })

/-- What an instance makes of something on the bus. -/
def relayed? (fleet : Fleet sites) (index : Fin sites) (place : Nat) : Option Envelope :=
  fleet.bus[place]?.bind fun (channel, data) =>
    match acceptInbound (node index).id (node index).naming channel data with
    | .ok envelope? => envelope?
    | .error _ => none

/-- What somebody else brings in by putting data on the bus. -/
def gift (data : Bytes) : List (FleetNotice sites) :=
  match Wire.decode data with
  | .ok (_, payload) => [.gave payload]
  | .error _ => []

/-- One step, with who brought in what. -/
def step (fleet : Fleet sites) : FleetMove sites → List (FleetNotice sites) × Fleet sites
  | .within index move =>
      let (notices, next) := fleet.turn node index move
      (((fleet.board index).voiced move).toList.map (.ofVoiced index) ++ notices, next)
  | .relay index place =>
      match fleet.relayed? node index place with
      | some envelope => fleet.turn node index (.submit (.broadcast envelope))
      | none => ([], fleet)
  | .strange channel data =>
      (gift data, { fleet with bus := fleet.bus ++ [(channel, data)] })

/-- What has arrived in a queue of an instance. -/
def received (log : List (FleetNotice sites)) (index : Fin sites) (queue : QueueId) : List Bytes :=
  World.gather (World.arrived queue) (.start (node index).config.commandCapacity) (moves log index)

/-- What was sent to the consumer of a queue of an instance. -/
def written (log : List (FleetNotice sites)) (index : Fin sites) (queue : QueueId) :
    List Outgoing :=
  (World.gather (World.read queue) (.start (node index).config.commandCapacity)
    (moves log index)).map Outgoing.ofPayload

/-- What holds between any two steps. -/
structure Sound (log : List (FleetNotice sites)) (fleet : Fleet sites) : Prop where
  boards : ∀ index, (fleet.board index).Sound
  worlds : ∀ index, (fleet.board index).world =
    (World.start (node index).config.commandCapacity).run (moves log index)
  text : ∀ payload ∈ spoken log, IsText payload

/-- All payloads in the channels, on the bus and in the queues were brought in. -/
structure Traced (log : List (FleetNotice sites)) (fleet : Fleet sites) : Prop where
  waiting : ∀ index (envelope : Envelope),
    .broadcast envelope ∈ (fleet.board index).world.loop.pending → Known log envelope.payload
  carried : ∀ message ∈ fleet.bus, ∀ origin payload,
    Wire.decode message.2 = .ok (origin, payload) → Known log payload
  arrived : ∀ index queue, ∀ payload ∈ received node log index queue, Known log payload

variable {node} {fleet : Fleet sites} {log : List (FleetNotice sites)}

theorem moves_turn (index other : Fin sites) (move : SwitchboardMove) :
    moves (fleet.turn node index move).1 other =
      if index = other then ((fleet.board index).worldMove? move).toList else [] := by
  simp only [turn, moves]
  cases (fleet.board index).worldMove? move with
  | none => simp
  | some step =>
      by_cases same : index = other <;> simp [move?, same]

theorem spoken_turn (index : Fin sites) (move : SwitchboardMove) :
    spoken (fleet.turn node index move).1 = [] := by
  simp only [turn, spoken]
  cases (fleet.board index).worldMove? move <;> rfl

theorem board_turn (index other : Fin sites) (move : SwitchboardMove) :
    (fleet.turn node index move).2.board other =
      if index = other then (fleet.board index).step move else fleet.board other := by
  by_cases same : index = other
  · subst same
    simp [turn]
  · simp [turn, same, Ne.symm same]

/-- What an instance relays stands in an envelope on the bus. -/
theorem relayed?_eq_some {index : Fin sites} {place : Nat} {envelope : Envelope}
    (relayed : fleet.relayed? node index place = some envelope) :
    ∃ message ∈ fleet.bus, ∃ origin, Wire.decode message.2 = .ok (origin, envelope.payload) := by
  obtain ⟨⟨channel, data⟩, there, accepted⟩ := Option.bind_eq_some_iff.mp relayed
  refine ⟨(channel, data), List.mem_of_getElem? there, ?_⟩
  dsimp only at accepted
  split at accepted
  · next envelope? decided =>
      obtain ⟨room, origin, payload, rest, fits, -, rfl, same⟩ :=
        acceptInbound_eq_ok_iff.mp decided
      subst accepted
      split at same
      · cases same
      · cases same
        exact ⟨origin, Wire.decode_encode origin fits rest⟩
  · cases accepted

/-- A step at one instance, after the notices that tell who brought in what in it. -/
theorem Sound.turn (sound : fleet.Sound node log) (index : Fin sites) (move : SwitchboardMove)
    (extra : List (FleetNotice sites)) (still : ∀ other, moves extra other = [])
    (text : ∀ payload ∈ spoken extra, IsText payload) :
    (fleet.turn node index move).2.Sound node
      (log ++ (extra ++ (fleet.turn node index move).1)) where
  boards other := by
    rw [board_turn]
    split
    · exact (sound.boards index).step move
    · exact sound.boards other
  worlds other := by
    rw [board_turn, moves_append, moves_append, still, List.nil_append, moves_turn, World.run,
      List.foldl_append]
    split
    · next same =>
        subst same
        rw [Switchboard.world_step, sound.worlds]
        rfl
    · exact sound.worlds other
  text payload spoke := by
    rcases mem_spoken_append.mp spoke with before | now
    · exact sound.text payload before
    · rcases mem_spoken_append.mp now with now | none
      · exact text payload now
      · rw [spoken_turn] at none
        cases none

/-- What a step at one instance brings anywhere was brought in. -/
theorem Traced.turn (traced : fleet.Traced node log) (sound : fleet.Sound node log)
    (fits : ∀ payload, Known log payload → payload.length < 2 ^ 64) (index : Fin sites)
    (move : SwitchboardMove) (extra : List (FleetNotice sites))
    (still : ∀ other, moves extra other = [])
    (heard : ∀ author payload, (fleet.board index).voiced move = some (author, payload) →
      Known (log ++ extra) payload) :
    (fleet.turn node index move).2.Traced node
      (log ++ (extra ++ (fleet.turn node index move).1)) where
  waiting other envelope waits := by
    rw [board_turn] at waits
    split at waits
    · rcases Switchboard.mem_pending_step waits with before | voiced
      · exact (traced.waiting index envelope before).append
      · rw [← List.append_assoc]
        exact (heard _ _ voiced).append
    · exact (traced.waiting other envelope waits).append
  carried message there origin payload read := by
    rcases List.mem_append.mp there with before | posted
    · exact (traced.carried message before origin payload read).append
    · -- the hub hands over what has waited, and the wire carries that as it is
      obtain ⟨envelope, waits, same⟩ := Switchboard.mem_posts posted
      have known := traced.waiting index envelope waits
      have back := Wire.decode_encode (node index).id (fits _ known) []
      rw [List.append_nil, ← same, read] at back
      cases back
      exact known.append
  arrived other queue payload there := by
    rw [received, moves_append, moves_append, still, List.nil_append, moves_turn,
      World.gather_append, ← sound.worlds] at there
    rcases List.mem_append.mp there with before | now
    · exact (traced.arrived other queue payload before).append
    · split at now
      · next same =>
          subst same
          rcases (sound.boards index).mem_arrived now with ⟨envelope, waits, rfl⟩ | voiced
          · exact (traced.waiting index envelope waits).append
          · rw [← List.append_assoc]
            exact (heard _ _ voiced).append
      · cases now

theorem moves_gift (data : Bytes) (other : Fin sites) : moves (gift data) other = [] := by
  unfold gift
  split <;> rfl

theorem spoken_gift (data : Bytes) : spoken (gift data : List (FleetNotice sites)) = [] := by
  unfold gift
  split <;> rfl

theorem Sound.start (node : Fin sites → Node) : (start node).Sound node [] where
  boards index := .start _
  worlds index := rfl
  text payload spoke := by cases spoke

theorem Traced.start (node : Fin sites → Node) : (start node).Traced node [] where
  waiting index envelope waits := by cases waits
  carried message there := by cases there
  arrived index queue payload there := by cases there

theorem Sound.step (sound : fleet.Sound node log) (move : FleetMove sites) :
    (fleet.step node move).2.Sound node (log ++ (fleet.step node move).1) := by
  cases move with
  | within index move =>
      refine sound.turn index move _ (moves_ofVoiced _) fun payload spoke => ?_
      obtain ⟨client, voiced⟩ := mem_spoken_ofVoiced.mp spoke
      exact (sound.boards index).isText_voiced voiced
  | relay index place =>
      simp only [Fleet.step]
      split
      · next envelope relayed =>
          exact sound.turn index (.submit (.broadcast envelope)) [] (fun _ => rfl)
            fun _ none => nomatch none
      · rwa [List.append_nil]
  | strange channel data =>
      refine ⟨sound.boards, fun index => ?_, fun payload spoke => ?_⟩
      · rw [Fleet.step, moves_append, moves_gift, List.append_nil]
        exact sound.worlds index
      · rw [Fleet.step, mem_spoken_append, spoken_gift] at spoke
        exact sound.text payload (spoke.resolve_right List.not_mem_nil)

theorem Traced.step (traced : fleet.Traced node log) (sound : fleet.Sound node log)
    (fits : ∀ payload, Known log payload → payload.length < 2 ^ 64) (move : FleetMove sites) :
    (fleet.step node move).2.Traced node (log ++ (fleet.step node move).1) := by
  cases move with
  | within index move =>
      refine traced.turn sound fits index move _ (moves_ofVoiced _) fun author payload voiced => ?_
      rw [voiced]
      exact known_append.mpr (.inr (known_ofVoiced author))
  | relay index place =>
      simp only [Fleet.step]
      split
      · next envelope relayed =>
          obtain ⟨message, there, origin, read⟩ := relayed?_eq_some relayed
          refine traced.turn sound fits index (.submit (.broadcast envelope)) [] (fun _ => rfl)
            fun author payload voiced => ?_
          rw [List.append_nil, Switchboard.eq_of_voiced_submit voiced]
          exact traced.carried message there origin _ read
      · rwa [List.append_nil]
  | strange channel data =>
      refine ⟨fun index envelope waits => (traced.waiting index envelope waits).append,
        fun message there origin payload read => ?_, fun index queue payload there => ?_⟩
      · rcases List.mem_append.mp there with before | new
        · exact (traced.carried message before origin payload read).append
        · cases List.mem_singleton.mp new
          rw [Fleet.step, gift, read]
          exact known_append.mpr (.inr (.inr List.mem_cons_self))
      · rw [Fleet.step, received, moves_append, moves_gift, List.append_nil] at there
        exact (traced.arrived index queue payload there).append

/-- What is sent to a consumer, with what still waits for it, is what arrived for it, each payload in
    a frame of its own; only from a queue that accepts nothing more some may be missing at the end. -/
theorem Sound.written_backlog (sound : fleet.Sound node log) (index : Fin sites) (queue : QueueId) :
    let sent := written node log index queue ++
      ((fleet.board index).world.backlog queue).map Outgoing.ofPayload
    let due := (received node log index queue).map Outgoing.ofPayload
    sent <+: due ∧ ((fleet.board index).world.Shut queue ∨ sent = due) := by
  have begun := World.Sound.start (node index).config.commandCapacity
  have passed := begun.gather_read queue (moves log index)
  have all := begun.gather_read_eq queue (moves log index)
  have empty : (World.start (node index).config.commandCapacity).backlog queue = [] := by
    simp [World.backlog, World.start]
  rw [empty, List.nil_append, ← sound.worlds] at passed all
  simp only [written, received, ← List.map_append]
  exact ⟨passed.map _, all.symm.imp_right (congrArg _)⟩

/-- Only what others brought in is sent as binary data. -/
theorem Traced.of_binary (traced : fleet.Traced node log) (sound : fleet.Sound node log)
    {index : Fin sites} {queue : QueueId} {data : Bytes}
    (sent : .binary data ∈ written node log index queue) :
    data ∈ received node log index queue ∧ data ∈ given log ∧ data ∉ spoken log := by
  have due := (sound.written_backlog index queue).1.subset (List.mem_append_left _ sent)
  obtain ⟨payload, there, framed⟩ := List.mem_map.mp due
  obtain ⟨rfl, strange⟩ := Outgoing.ofPayload_binary framed
  have unspoken : data ∉ spoken log := fun spoke => strange (sound.text data spoke)
  exact ⟨there, (traced.arrived index queue data there).resolve_left unspoken, unspoken⟩

/-- Every run of instances on one bus keeps the payloads apart by who brought them in. -/
theorem play_sound (node : Fin sites → Node) (moves : List (FleetMove sites)) :
    let run := play (step node) (start node) moves
    Sound node run.1 run.2 ∧
      ((∀ payload, Known run.1 payload → payload.length < 2 ^ 64) → Traced node run.1 run.2) := by
  refine play_induction (motive := fun log fleet => Sound node log fleet ∧
    ((∀ payload, Known log payload → payload.length < 2 ^ 64) → Traced node log fleet))
    (fun log fleet move good => ?_) ⟨.start node, fun _ => .start node⟩ moves
  obtain ⟨sound, traced⟩ := good
  refine ⟨sound.step move, fun fits => ?_⟩
  -- what fits after the step has fitted before it
  have before : ∀ payload, Known log payload → payload.length < 2 ^ 64 :=
    fun payload known => fits payload known.append
  exact (traced before).step sound before move

/-- A frame is only accepted if it is text, and a message that was read from it is written as text
    again. So whatever instances do on one bus and with their clients, what the pump of a connection
    brings in is sent as text with its own bytes. Of what arrives for a consumer nothing is changed
    or left out before the queue closes, and all of it was brought in somewhere, by a pump or by
    somebody else; an envelope carries a payload to another instance as it is. Binary data is sent
    only of what somebody else brought in, with its own bytes. -/
theorem what_connections_say_is_text :
    (∀ raw frame, Frame.decode raw = .ok frame → Utf8.isValid raw = true ∧
      ∀ message room now, frame.message? = some message →
        Utf8.isValid (message.stamp room now).encode = true) ∧
    ∀ {sites : Nat} (node : Fin sites → Node) (moves : List (FleetMove sites)),
      let run := play (step node) (start node) moves
      let log := run.1
      let fleet := run.2
      (∀ payload ∈ spoken log,
        ∃ text, Outgoing.ofPayload payload = .text text ∧ Utf8.ofString text = payload) ∧
      (∀ index queue,
        let sent := written node log index queue ++
          ((fleet.board index).world.backlog queue).map Outgoing.ofPayload
        let due := (received node log index queue).map Outgoing.ofPayload
        sent <+: due ∧ ((fleet.board index).world.Shut queue ∨ sent = due)) ∧
      ((∀ payload, Known log payload → payload.length < 2 ^ 64) →
        (∀ source index room payload, Known log payload →
          acceptInbound (node index).id (node index).naming ((node index).naming.channel room)
              (Wire.encode (node source).id payload) =
            .ok (if (node source).id = (node index).id then none
              else some { room, payload, origin := .instance (node source).id })) ∧
        ∀ index queue,
          (∀ payload ∈ received node log index queue,
            payload ∈ spoken log ∨ payload ∈ given log) ∧
          ∀ data, .binary data ∈ written node log index queue →
            data ∈ received node log index queue ∧ data ∈ given log ∧ data ∉ spoken log) := by
  refine ⟨fun raw frame decoded => ⟨Utf8.isValid_iff.mpr (Frame.isText_of_decode decoded),
    fun message room now _ => Utf8.isValid_iff.mpr (Message.isText_encode _)⟩,
    fun node moves => ?_⟩
  obtain ⟨sound, traced⟩ := play_sound node moves
  refine ⟨fun payload spoke => Outgoing.ofPayload_text (sound.text payload spoke),
    sound.written_backlog, fun fits => ⟨fun source index room payload known => ?_,
      fun index queue => ⟨(traced fits).arrived index queue, fun data sent => ?_⟩⟩⟩
  · exact acceptInbound_encode _ _ _ room (fits payload known)
  · exact (traced fits).of_binary sound sent

/-- A message crosses the bus and is sent as text; what somebody else submits to the hub where it
    arrives is no text, and is sent as it is. -/
theorem what_connections_say_is_text_across :
    let node (index : Fin 2) : Node :=
      .start ⟨List.replicate 16 (if index = 0 then 1 else 2), List.length_replicate⟩ {}
    let hi := Utf8.ofString "\x7b\"type\":\"message\",\"content\":\"hi\"\x7d"
    let strange : Command := .broadcast { room := "a", payload := [0xFF], origin := .here }
    let moves : List (FleetMove 2) :=
      [.within 0 (.dial ⟨1, 1⟩ 4 "a"), .within 0 (.enter 1), .within 0 (.other (.advance none)),
        .within 1 (.dial ⟨1, 1⟩ 4 "a"), .within 1 (.enter 1), .within 1 (.other (.advance none)),
        .within 0 (.frame 1 ⟨0, 0, 0⟩ hi), .within 0 (.request 1),
        .within 0 (.other (.advance (some true))), .relay 1 0, .within 1 (.other (.advance none)),
        .within 1 (.submit strange), .within 1 (.other (.advance none)),
        .within 1 (.other (.receive 1)), .within 1 (.other (.receive 1))]
    let log := (play (step node) (start node) moves).1
    (∃ frame message, Frame.decode hi = .ok frame ∧ frame.message? = some message ∧
        Utf8.isValid hi = true ∧ Utf8.isValid (message.stamp "a" ⟨0, 0, 0⟩).encode = true) ∧
      (∃ said text, spoken log = [said] ∧ Outgoing.ofPayload said = .text text ∧
        acceptInbound (node 1).id .default (ChannelNaming.default.channel "a")
            (Wire.encode (node 0).id said) =
          .ok (some { room := "a", payload := said, origin := .instance (node 0).id }) ∧
        written node log 1 1 = [.text text, .binary [0xFF]]) ∧
      [0xFF] ∈ received node log 1 1 ∧ [0xFF] ∈ given log ∧ [0xFF] ∉ spoken log := by
  intro node hi strange moves
  have accepted : ((Frame.decode hi).toOption.bind Frame.message?).isSome = true := by
    decide +kernel
  have passed : let log := (play (step node) (start node) moves).1
      (spoken log).length = 1 ∧ (∀ payload ∈ spoken log ++ given log, payload.length < 2 ^ 64) ∧
        written node log 1 1 = (spoken log).map Outgoing.ofPayload ++ [.binary [0xFF]] := by
    decide +kernel
  have apart : (node 0).id ≠ (node 1).id := by decide
  have frames := what_connections_say_is_text.1 hi
  have runs := what_connections_say_is_text.2 node moves
  -- from here on nothing has to look into the run
  generalize play (step node) (start node) moves = run at passed runs ⊢
  obtain ⟨log, fleet⟩ := run
  obtain ⟨one, short, sent⟩ := passed
  obtain ⟨said, -, known⟩ := runs
  obtain ⟨crossed, arrivals⟩ := known fun payload known => short payload (List.mem_append.mpr known)
  refine ⟨?_, ?_, (arrivals 1 1).2 [0xFF] ?_⟩
  · cases decoded : Frame.decode hi with
    | error fault =>
        rw [decoded] at accepted
        cases accepted
    | ok frame =>
        rw [decoded] at accepted
        obtain ⟨message, read⟩ := Option.isSome_iff_exists.mp accepted
        obtain ⟨valid, again⟩ := frames frame decoded
        exact ⟨frame, message, rfl, read, valid, again message "a" ⟨0, 0, 0⟩ read⟩
  · obtain ⟨payload, only⟩ := List.length_eq_one_iff.mp one
    have spoke : payload ∈ spoken log := only ▸ List.mem_cons_self
    obtain ⟨text, framed, -⟩ := said payload spoke
    have there := crossed 0 1 "a" payload (.inl spoke)
    rw [if_neg apart] at there
    exact ⟨payload, text, only, framed, there,
      by rw [sent, only, List.map_singleton, framed]; rfl⟩
  · exact sent ▸ List.mem_append_right _ List.mem_cons_self

end Fleet
end ChatRelay
