import ChatRelay.Proofs.Fanout.Format
import ChatRelay.Proofs.Hub.Broadcasts

/-! # What is accepted from the bus

A message from the bus is for the members here exactly if it stands on the channel of a room and
begins with an envelope of another instance. All other messages are told apart by what they are: own
ones, those on strange channels whatever they contain, and those that hold no envelope.
-/

namespace ChatRelay

theorem ChannelNaming.room?_eq_none_iff {naming : ChannelNaming} {channel : String} :
    naming.room? channel = none ↔ ∀ room, channel ≠ naming.start ++ room := by
  rw [Option.eq_none_iff_forall_ne_some]
  exact forall_congr' fun room => not_congr room?_eq_some_iff

namespace Wire

/-- A byte string is refused exactly if no envelope stands at its front. -/
theorem decode_eq_error_iff {data : Bytes} :
    (∃ fault, decode data = .error fault) ↔
      ∀ origin payload rest, payload.length < 2 ^ 64 → data ≠ encode origin payload ++ rest := by
  constructor
  · rintro ⟨fault, refused⟩ origin payload rest fits same
    rw [decode_eq_ok_iff.mpr ⟨fits, rest, same⟩] at refused
    cases refused
  · intro none
    cases read : decode data with
    | error fault => exact ⟨fault, rfl⟩
    | ok envelope =>
        obtain ⟨origin, payload⟩ := envelope
        obtain ⟨fits, rest, same⟩ := decode_eq_ok_iff.mp read
        exact absurd same (none origin payload rest fits)

end Wire

section Accepting

variable {self : InstanceId} {naming : ChannelNaming} {channel : String} {data : Bytes}

theorem acceptInbound_eq_unknownChannel_iff {name : String} :
    acceptInbound self naming channel data = .error (.unknownChannel name) ↔
      name = channel ∧ ∀ room, channel ≠ naming.start ++ room := by
  rw [← ChannelNaming.room?_eq_none_iff, acceptInbound]
  cases naming.room? channel with
  | none => simp [eq_comm]
  | some room =>
      cases Wire.decode data with
      | error fault => simp
      | ok envelope =>
          dsimp only
          split <;> simp

/-- On the channel of a room the data decides. -/
theorem acceptInbound_channel (self : InstanceId) (naming : ChannelNaming) (room : String)
    (data : Bytes) :
    acceptInbound self naming (naming.channel room) data =
      match Wire.decode data with
      | .error fault => .error (.codec fault)
      | .ok (origin, payload) =>
          .ok (if origin = self then none
            else some { room, payload, origin := .instance origin }) := by
  have found : naming.room? (naming.channel room) = some room :=
    ChannelNaming.room?_eq_some_iff.mpr rfl
  rw [acceptInbound, found]
  cases Wire.decode data with
  | error fault => rfl
  | ok envelope =>
      dsimp only
      split <;> rfl

theorem acceptInbound_eq_codec_iff {fault : Wire.Fault} :
    acceptInbound self naming channel data = .error (.codec fault) ↔
      (∃ room, channel = naming.start ++ room) ∧ Wire.decode data = .error fault := by
  constructor
  · intro refused
    cases found : naming.room? channel with
    | none =>
        simp only [acceptInbound, found] at refused
        cases refused
    | some room =>
        obtain rfl := ChannelNaming.room?_eq_some_iff.mp found
        refine ⟨⟨room, rfl⟩, ?_⟩
        rw [acceptInbound_channel] at refused
        cases read : Wire.decode data with
        | error fault' =>
            rw [read] at refused
            cases refused
            rfl
        | ok envelope =>
            rw [read] at refused
            cases refused
  · rintro ⟨⟨room, rfl⟩, refused⟩
    have decided := acceptInbound_channel self naming room data
    rw [refused] at decided
    exact decided

/-- A message that is in order is an envelope on the channel of a room. -/
theorem acceptInbound_eq_ok_iff {envelope? : Option Envelope} :
    acceptInbound self naming channel data = .ok envelope? ↔
      ∃ room origin payload rest, payload.length < 2 ^ 64 ∧ channel = naming.start ++ room ∧
        data = Wire.encode origin payload ++ rest ∧
        envelope? = if origin = self then none
          else some { room, payload, origin := .instance origin } := by
  constructor
  · intro accepted
    cases found : naming.room? channel with
    | none =>
        simp only [acceptInbound, found] at accepted
        cases accepted
    | some room =>
        obtain rfl := ChannelNaming.room?_eq_some_iff.mp found
        rw [acceptInbound_channel] at accepted
        cases read : Wire.decode data with
        | error fault =>
            rw [read] at accepted
            cases accepted
        | ok envelope =>
            obtain ⟨origin, payload⟩ := envelope
            obtain ⟨fits, rest, same⟩ := Wire.decode_eq_ok_iff.mp read
            rw [read] at accepted
            cases accepted
            exact ⟨room, origin, payload, rest, fits, rfl, same, rfl⟩
  · rintro ⟨room, origin, payload, rest, fits, rfl, same, rfl⟩
    have read := Wire.decode_eq_ok_iff.mpr ⟨fits, rest, same⟩
    have decided := acceptInbound_channel self naming room data
    rw [read] at decided
    exact decided

end Accepting

theorem ChannelNaming.channel_injective {naming : ChannelNaming} {room room' : String}
    (same : naming.channel room = naming.channel room') : room = room' := by
  have found : naming.room? (naming.channel room) = some room := room?_eq_some_iff.mpr rfl
  have found' := room?_eq_some_iff.mpr same
  rw [found] at found'
  exact Option.some.inj found'

/-- What other instances are told of is a broadcast that the fanout accepted. -/
theorem Node.mem_announced {node : Node} {events : List Event} {channel : String} {data : Bytes}
    (told : (channel, data) ∈ node.announced events) :
    ∃ room payload, Event.published room payload true ∈ events ∧
      channel = node.naming.channel room ∧ data = Wire.encode node.id payload := by
  rw [Node.announced_eq, List.mem_map] at told
  obtain ⟨⟨room, payload⟩, listed, same⟩ := told
  cases same
  obtain ⟨event, member, accepted⟩ := List.mem_filterMap.mp listed
  refine ⟨room, payload, ?_, rfl, rfl⟩
  unfold Event.accepted? at accepted
  split at accepted
  · cases accepted
    exact member
  · cases accepted

/-- What is accepted is exactly an envelope of another instance, with anything behind it, on the
    channel of a room, and it is for that room, with the payload and the sender of the envelope. Own
    envelopes are passed over, a strange channel is refused before the data is looked at, and data
    without an envelope is refused on the channel of a room. Every room has a channel of its own, so
    what an instance published for one room is accepted for no other. -/
theorem inbound_messages_are_accepted_exactly (self : InstanceId) (naming : ChannelNaming) :
    (∀ channel data envelope, acceptInbound self naming channel data = .ok (some envelope) ↔
      ∃ room origin payload rest, payload.length < 2 ^ 64 ∧ channel = naming.start ++ room ∧
        data = Wire.encode origin payload ++ rest ∧ origin ≠ self ∧
        envelope = { room, payload, origin := .instance origin }) ∧
    (∀ channel data, acceptInbound self naming channel data = .ok none ↔
      ∃ room payload rest, payload.length < 2 ^ 64 ∧ channel = naming.start ++ room ∧
        data = Wire.encode self payload ++ rest) ∧
    (∀ channel data name, acceptInbound self naming channel data = .error (.unknownChannel name) ↔
      name = channel ∧ ∀ room, channel ≠ naming.start ++ room) ∧
    (∀ channel data, (∃ fault, acceptInbound self naming channel data = .error (.codec fault)) ↔
      (∃ room, channel = naming.start ++ room) ∧
        ∀ origin payload rest, payload.length < 2 ^ 64 →
          data ≠ Wire.encode origin payload ++ rest) ∧
    (∀ room, naming.room? (naming.channel room) = some room) ∧
    (∀ room room', naming.channel room = naming.channel room' → room = room') ∧
    ∀ (node : Node) events channel data envelope, node.naming = naming →
      (channel, data) ∈ node.announced events →
        acceptInbound self naming channel data = .ok (some envelope) →
          ∃ payload, Event.published envelope.room payload true ∈ events ∧
            (payload.length < 2 ^ 64 → envelope = ⟨envelope.room, payload, .instance node.id⟩) := by
  refine ⟨?_, ?_, fun channel data name => acceptInbound_eq_unknownChannel_iff, ?_,
    fun room => ChannelNaming.room?_eq_some_iff.mpr rfl,
    fun room room' => ChannelNaming.channel_injective, ?_⟩
  · intro channel data envelope
    rw [acceptInbound_eq_ok_iff]
    constructor
    · rintro ⟨room, origin, payload, rest, fits, there, begins, told⟩
      split at told
      · cases told
      · next other =>
          have is := Option.some.inj told
          exact ⟨room, origin, payload, rest, fits, there, begins, other, is⟩
    · rintro ⟨room, origin, payload, rest, fits, there, begins, other, rfl⟩
      exact ⟨room, origin, payload, rest, fits, there, begins, (if_neg other).symm⟩
  · intro channel data
    rw [acceptInbound_eq_ok_iff]
    constructor
    · rintro ⟨room, origin, payload, rest, fits, there, begins, told⟩
      split at told
      · next own => exact ⟨room, payload, rest, fits, there, own ▸ begins⟩
      · cases told
    · rintro ⟨room, payload, rest, fits, there, begins⟩
      exact ⟨room, self, payload, rest, fits, there, begins, (if_pos rfl).symm⟩
  · intro channel data
    simp only [acceptInbound_eq_codec_iff, exists_and_left, Wire.decode_eq_error_iff]
  · rintro node events channel data envelope rfl told accepted
    obtain ⟨room, payload, published, rfl, rfl⟩ := Node.mem_announced told
    obtain ⟨room', origin, payload', rest, fits', there, begins, is⟩ :=
      acceptInbound_eq_ok_iff.mp accepted
    obtain rfl : room = room' := ChannelNaming.channel_injective there
    split at is
    · cases is
    · cases is
      refine ⟨payload, published, fun fits => ?_⟩
      rw [← List.append_nil (Wire.encode node.id payload)] at begins
      obtain ⟨rfl, rfl, -⟩ := Wire.encode_append_inj fits fits' begins
      rfl

/-- A room whose name looks like a channel is recovered, with bytes behind the envelope. -/
theorem inbound_messages_are_accepted_exactly_nested :
    let origin : InstanceId := ⟨List.replicate 16 1, by decide⟩
    let naming : ChannelNaming := ⟨"chat:"⟩
    let envelope : Envelope := { room := "chat:*", payload := [7], origin := .instance origin }
    acceptInbound .zero naming "chat:chat:*" (Wire.encode origin [7] ++ [9]) = .ok (some envelope) ∧
      acceptInbound origin naming "chat:chat:*" (Wire.encode origin [7] ++ [9]) = .ok none ∧
      (∃ fault, acceptInbound .zero naming "chat:chat:*" [16] = .error (.codec fault)) ∧
      ∀ room, naming.channel room = naming.channel "chat:*" → room = "chat:*" := by
  intro origin naming envelope
  obtain ⟨foreign, -, -, garbled, -, apart, -⟩ :=
    inbound_messages_are_accepted_exactly .zero naming
  obtain ⟨-, own, -⟩ := inbound_messages_are_accepted_exactly origin naming
  refine ⟨(foreign ..).mpr ?_, (own ..).mpr ?_, (garbled ..).mpr ⟨⟨"chat:*", by decide⟩, ?_⟩,
    fun room => apart room "chat:*"⟩
  · exact ⟨"chat:*", origin, [7], [9], by decide, by decide, rfl, by decide, rfl⟩
  · exact ⟨"chat:*", [7], [9], by decide, by decide, rfl⟩
  · intro origin payload rest _ same
    have longer := congrArg List.length same
    simp only [Wire.encode, Wire.lengthWord, List.length_append, Bytes.length_littleEndian,
      List.length_singleton] at longer
    omega

end ChatRelay
