import ChatRelay.Proofs.Server.Switchboard
import ChatRelay.Proofs.Hub.Traffic

/-! # Where the sender of a message is

A pump keeps the room of its session for itself and changes it when a switch was accepted; the hub
moves the client later. That the two agree whenever it matters is owed to the order of the one
channel: between the hub and the pump lie the switches that wait there, and each message stands
behind the switch to the room that it was sent to.
-/

namespace ChatRelay

/-- The room of a client once a command is processed, if the client is still registered. -/
def Command.moved (client : ClientId) (room? : Option String) : Command → Option String
  | .join room handle => if handle.client = client then some room else room?
  | .switch mover room => if mover = client then some room else room?
  | _ => room?

/-- A command takes a registered client to where it is due, or the client is nowhere. -/
theorem Command.seated_moved {answer : QueueId → Bytes → Offer} {client : ClientId}
    {seat : Option (String × Handle)} {room? : Option String} (command : Command)
    (due : seat = none ∨ seat.map Prod.fst = room?) :
    command.seated answer client seat = none ∨
      (command.seated answer client seat).map Prod.fst = command.moved client room? := by
  cases command <;> cases seat <;> grind [seated, moved]

namespace Switchboard

variable (client : ClientId)

/-- Every message of a client stands in the channel where the requests before it have taken the
    client to the room of the message. -/
def Follows (room? : Option String) : List (Option ClientId × Command) → Prop
  | [] => True
  | (author, command) :: rest =>
      (author = some client → ∀ envelope, command = .broadcast envelope → room? = some envelope.room) ∧
        Follows (command.moved client room?) rest

/-- The room of a client once some requests are processed, if the client is still registered. -/
def roomAfter (room? : Option String) (mail : List (Option ClientId × Command)) : Option String :=
  mail.foldl (fun room? entry => entry.2.moved client room?) room?

variable {client}

theorem follows_append {room? : Option String} {mail : List (Option ClientId × Command)}
    {author : Option ClientId} {command : Command} :
    Follows client room? (mail ++ [(author, command)]) ↔ Follows client room? mail ∧
      (author = some client → ∀ envelope, command = .broadcast envelope →
        roomAfter client room? mail = some envelope.room) := by
  induction mail generalizing room? with
  | nil => simp [Follows, roomAfter]
  | cons first mail ih =>
      obtain ⟨author', command'⟩ := first
      simp only [List.cons_append, Follows, ih, and_assoc]
      rfl

theorem roomAfter_append {room? : Option String} {mail : List (Option ClientId × Command)}
    {author : Option ClientId} {command : Command} :
    roomAfter client room? (mail ++ [(author, command)]) =
      command.moved client (roomAfter client room? mail) := by
  simp [roomAfter]

theorem moved_strange {command : Command} (strange : command.subject? ≠ some client)
    (room? : Option String) : command.moved client room? = room? := by
  cases command <;> grind [Command.subject?, Command.moved]

/-- Nobody else takes the client of a connection anywhere. -/
theorem moved_admitted {board : Switchboard} {command : Command}
    (admitted : board.admits command = true) (known : client ∈ board.lines)
    (room? : Option String) : command.moved client room? = room? := by
  have other (subject : ClientId) (absent : subject ∉ board.lines) : subject ≠ client :=
    fun same => absent (same ▸ known)
  cases command with
  | join room handle => exact if_neg (other _ (by simpa [admits] using admitted))
  | switch mover room => exact if_neg (other _ (by simpa [admits] using admitted))
  | _ => rfl

theorem roomAfter_strange {mail : List (Option ClientId × Command)}
    (strange : ∀ entry ∈ mail, entry.2.subject? ≠ some client) (room? : Option String) :
    roomAfter client room? mail = room? := by
  induction mail with
  | nil => rfl
  | cons entry mail ih =>
      have rest := ih fun other member => strange other (List.mem_cons_of_mem _ member)
      rw [roomAfter, List.foldl_cons, moved_strange (strange entry List.mem_cons_self)]
      exact rest

theorem follows_strange {mail : List (Option ClientId × Command)}
    (strange : ∀ entry ∈ mail, entry.1 ≠ some client) (room? : Option String) :
    Follows client room? mail := by
  induction mail generalizing room? with
  | nil => trivial
  | cons entry mail ih =>
      have author := strange entry List.mem_cons_self
      exact ⟨fun own => absurd own author,
        ih (fun other member => strange other (List.mem_cons_of_mem _ member)) _⟩

end Switchboard

/-- A broadcast of a payload that a frame leads to in a session in the room. -/
def Envelope.Spoken (envelope : Envelope) : Prop :=
  envelope.origin = .here ∧
    ∃ now data, (Session.react envelope.room now data).payload? = some envelope.payload

/-- A request that a frame leads to, and the room of the session after it. -/
def Connection.Asks (connection : Connection) (command : Command) (room : String) : Prop :=
  command = .switch connection.client room ∨
    ∃ envelope : Envelope, command = .broadcast envelope ∧ envelope.Spoken ∧
      envelope.room = connection.room ∧ room = connection.room

/-- A pump that has taken a frame asks for what the frame leads to. -/
theorem Line.asks_pumpAfter {line : Line} {now : Timestamp} {data : Bytes} {command : Command}
    {room : String} (asking : line.pumpAfter (Session.react line.connection.room now data) =
      .asking command room) : line.connection.Asks command room := by
  unfold Line.pumpAfter at asking
  split at asking
  · next request asks =>
      cases asking
      have spoken (payload : Bytes)
          (payload? : (Session.react line.connection.room now data).payload? = some payload) :
          Envelope.Spoken { room := line.connection.room, payload, origin := .here } :=
        ⟨rfl, now, data, payload?⟩
      generalize Session.react line.connection.room now data = reaction at asks spoken ⊢
      cases reaction with
      | close => exact nomatch asks
      | ignore => exact nomatch asks
      | move target =>
          cases asks
          exact .inl rfl
      | relay data =>
          cases asks
          exact .inr ⟨_, rfl, spoken data rfl, rfl, rfl⟩
      | say message =>
          cases asks
          exact .inr ⟨_, rfl, spoken message.encode rfl, rfl, rfl⟩
  · split at asking <;> exact nomatch asking

/-- The room that the pump of a line is in. -/
def Line.room? (line : Line) : Option String :=
  match line.pump with
  | .off => none
  | _ => some line.connection.room

namespace Switchboard

/-- The hub has a client where the channel will have taken it to the room of its pump, or nowhere. -/
def Placed (board : Switchboard) (client : ClientId) (room? : Option String) : Prop :=
  ∃ due, (board.world.loop.hub.registry.roomOf? client = none ∨
      board.world.loop.hub.registry.roomOf? client = due) ∧
    Follows client due board.mail ∧
    ∀ room, room? = some room → roomAfter client due board.mail = some room

/-- What holds of a line between any two steps. -/
structure Settled (board : Switchboard) (client : ClientId) (line : Line) : Prop where
  own : line.connection.client = client
  asks : ∀ command room, line.pump = .asking command room → line.connection.Asks command room
  placed : board.Placed client line.room?

/-- What holds between any two steps. -/
structure Sound (board : Switchboard) : Prop where
  world : ∃ roster, board.world.Sound roster
  paired : board.authors.length = board.world.loop.pending.length
  written : ∀ client command, (some client, command) ∈ board.mail →
    client ∈ board.lines ∧ ∀ envelope, command = .broadcast envelope → envelope.Spoken
  settled : ∀ (client : ClientId) (line : Line), board.lines[client]? = some line →
    board.Settled client line

namespace Sound

variable {board : Switchboard}

theorem start (capacity : Nat) : (Switchboard.start capacity).Sound where
  world := ⟨∅, .start capacity⟩
  paired := rfl
  written := by simp [Switchboard.start, mail]
  settled := by simp [Switchboard.start]

/-- A step that the channel and the registry do not notice. -/
theorem unnoticed (sound : board.Sound) {world : World} (still : ∃ roster, world.Sound roster)
    (pending : world.loop.pending = board.world.loop.pending)
    (registry : world.loop.hub.registry = board.world.loop.hub.registry) :
    Sound { board with world } := by
  have mail : Switchboard.mail { board with world } = board.mail := by
    simp only [Switchboard.mail, pending]
  refine ⟨still, pending ▸ sound.paired, ?_, fun client line found => ?_⟩
  · rw [mail]
    exact sound.written
  · obtain ⟨own, asks, placed⟩ := sound.settled client line found
    refine ⟨own, asks, ?_⟩
    simpa only [Placed, mail, registry] using placed

/-- A line that changes beside the channel. -/
theorem put (sound : board.Sound) {client : ClientId} {line : Line}
    (settled : board.Settled client line) : (board.put client line).Sound where
  world := sound.world
  paired := sound.paired
  written other command listed := by
    obtain ⟨known, spoken⟩ := sound.written other command listed
    exact ⟨Std.ExtTreeMap.mem_insert.mpr (.inr known), spoken⟩
  settled other line' found := by
    simp only [Switchboard.put, Std.ExtTreeMap.getElem?_insert,
      Std.LawfulEqCmp.compare_eq_iff_eq] at found
    split at found
    · next same =>
        cases found
        exact same ▸ ⟨settled.own, settled.asks, settled.placed⟩
    · obtain ⟨own, asks, placed⟩ := sound.settled other line' found
      exact ⟨own, asks, placed⟩

/-- A request that was accepted, with what becomes of the lines. -/
theorem accepted (sound : board.Sound) {author : Option ClientId} {command : Command}
    (loose : EventLoop.carried command ⊆ board.world.loose) {lines : Std.ExtTreeMap ClientId Line}
    (known : ∀ client ∈ board.lines, client ∈ lines)
    (written : ∀ client, author = some client → client ∈ lines ∧
      ∀ envelope, command = .broadcast envelope → envelope.Spoken)
    (each : ∀ (client : ClientId) (line : Line), lines[client]? = some line →
      ∃ old : Line, board.lines[client]? = some old ∧
        line.connection.client = client ∧
        (∀ command room, line.pump = .asking command room → line.connection.Asks command room) ∧
        (author = some client → ∀ envelope, command = .broadcast envelope →
          old.room? = some envelope.room) ∧
        ∀ due, (∀ room, old.room? = some room → due = some room) →
          ∀ room, line.room? = some room → command.moved client due = some room) :
    Sound
      { world := { board.world with
          loop := { board.world.loop with pending := board.world.loop.pending ++ [command] }
          loose := board.world.loose.diff (EventLoop.carried command) }
        lines
        authors := board.authors ++ [author] } := by
  obtain ⟨roster, world⟩ := sound.world
  have mail : (board.authors ++ [author]).zip (board.world.loop.pending ++ [command]) =
      board.mail ++ [(author, command)] := by
    rw [List.zip_append sound.paired]
    rfl
  refine ⟨⟨roster, (world.submit loose).1⟩, by simp [sound.paired], ?_, ?_⟩
  · intro client other listed
    simp only [Switchboard.mail, mail, List.mem_append, List.mem_singleton, Prod.mk.injEq] at listed
    rcases listed with old | ⟨rfl, rfl⟩
    · obtain ⟨there, spoken⟩ := sound.written client other old
      exact ⟨known client there, spoken⟩
    · exact written client rfl
  · intro client line found
    obtain ⟨old, before, own, asks, speaks, reaches⟩ := each client line found
    obtain ⟨due, there, follows, reached⟩ := (sound.settled client old before).placed
    refine ⟨own, asks, due, there, ?_, ?_⟩
    · simp only [Switchboard.mail, mail, follows_append]
      refine ⟨follows, fun mine envelope asked => ?_⟩
      exact reached envelope.room (speaks mine envelope asked)
    · simp only [Switchboard.mail, mail, roomAfter_append]
      exact reaches _ reached

/-- The hub processes the oldest request. -/
theorem processed (sound : board.Sound) {move : WorldMove} {command : Command} {rest : List Command}
    (processing : board.world.processing? move = some command)
    (next : board.world.loop.pending = command :: rest)
    (left : (board.world.step move).loop.pending = rest) :
    Sound { board with world := board.world.step move, authors := board.authors.drop 1 } := by
  obtain ⟨roster, world⟩ := sound.world
  have after := world.step_processing processing
  obtain ⟨author, authors, marked⟩ : ∃ author authors, board.authors = author :: authors := by
    rw [← List.length_pos_iff_exists_cons, sound.paired, next]
    simp
  have mail : board.mail = (author, command) :: authors.zip rest := by
    rw [Switchboard.mail, marked, next, List.zip_cons_cons]
  have paired := sound.paired
  rw [marked, next, List.length_cons, List.length_cons, Nat.add_right_cancel_iff] at paired
  refine ⟨⟨_, after⟩, by simp only [marked, left, List.drop_one, List.tail_cons, paired], ?_, ?_⟩
  · intro client other listed
    refine sound.written client other ?_
    rw [mail]
    simp only [Switchboard.mail, marked, left, List.drop_one, List.tail_cons] at listed
    exact List.mem_cons_of_mem _ listed
  · intro client line found
    obtain ⟨own, asks, due, there, follows, reaches⟩ := sound.settled client line found
    rw [mail] at follows reaches
    refine ⟨own, asks, command.moved client due, ?_, ?_, ?_⟩
    · have before : board.world.loop.hub.registry.roomOf? client = roster[client]?.map Prod.fst :=
        world.mirrors.index client
      have now : (board.world.step move).loop.hub.registry.roomOf? client =
          (roster.processing command board.world.queues)[client]?.map Prod.fst :=
        after.mirrors.index client
      rw [world.mirrors.getElem?_processing] at now
      rw [before, Option.map_eq_none_iff] at there
      rw [now, Option.map_eq_none_iff]
      exact command.seated_moved there
    · simp only [Switchboard.mail, marked, left, List.drop_one, List.tail_cons]
      exact follows.2
    · simp only [Switchboard.mail, marked, left, List.drop_one, List.tail_cons]
      exact reaches

/-- The hub ends, and with it everything that waits. -/
theorem emptied (sound : board.Sound) {world : World} (still : ∃ roster, world.Sound roster)
    (pending : world.loop.pending = []) (registry : world.loop.hub.registry = {}) :
    Sound { board with world, authors := [] } := by
  refine ⟨still, by rw [pending]; rfl, by simp [Switchboard.mail], fun client line found => ?_⟩
  obtain ⟨own, asks, due, -, -, reaches⟩ := sound.settled client line found
  refine ⟨own, asks, roomAfter client due board.mail, .inl ?_, ?_, reaches⟩
  · rw [registry]
    simp [Registry.roomOf?]
  · exact trivial

/-- A step of the world beside all requests. -/
theorem other (sound : board.Sound) {move : WorldMove} (quiet : ∀ command, move ≠ .submit command) :
    Sound { board with
      world := board.world.step move
      authors := board.authors.drop
        (board.world.loop.pending.length - (board.world.step move).loop.pending.length) } := by
  obtain ⟨roster, world⟩ := sound.world
  obtain ⟨roster', after, -⟩ := world.step move
  rcases board.world.channel_cases quiet with
    ⟨command, rest, processing, next, left⟩ | ⟨pending, registry⟩ | ⟨pending, registry⟩
  · have one : board.world.loop.pending.length - (board.world.step move).loop.pending.length = 1 := by
      rw [next, left, List.length_cons]
      omega
    rw [one]
    exact sound.processed processing next left
  · rw [pending, Nat.sub_self, List.drop_zero]
    exact sound.unnoticed ⟨roster', after⟩ pending registry
  · have all : board.authors.drop (board.world.loop.pending.length -
        (board.world.step move).loop.pending.length) = [] := by
      simp [pending, sound.paired]
    rw [all]
    exact sound.emptied ⟨roster', after⟩ pending registry

/-- A request that was refused. -/
theorem refused (sound : board.Sound) (gone : List Handle) :
    Sound { board with
      world := { board.world with
        queues := board.world.queues.release gone
        loose := board.world.loose.diff gone } } := by
  obtain ⟨roster, world⟩ := sound.world
  exact sound.unnoticed ⟨roster, (world.forget gone).1⟩ rfl rfl

/-- Somebody else makes a request. -/
theorem submit (sound : board.Sound) {command : Command} (admitted : board.admits command = true) :
    (board.ask none command).2.Sound := by
  rcases board.ask_cases none command with waits | ⟨loose, accepts | refuses⟩
  · rw [waits]
    exact sound
  · rw [accepts]
    refine sound.accepted loose (fun _ known => known) (by simp) fun client line found => ?_
    obtain ⟨own, asks, -⟩ := sound.settled client line found
    refine ⟨line, found, own, asks, by simp, fun due reaches room there => ?_⟩
    have known : client ∈ board.lines := by
      rw [Std.ExtTreeMap.mem_iff_isSome_getElem?, found]
      rfl
    rw [moved_admitted admitted known]
    exact reaches room there
  · rw [refuses]
    exact sound.refused _

/-- A connection's own request, with what becomes of its line. -/
theorem put_accepted (sound : board.Sound) {client : ClientId} {old line : Line}
    (found : board.lines[client]? = some old) {author : Option ClientId} {command : Command}
    (loose : EventLoop.carried command ⊆ board.world.loose)
    (mine : ∀ other, author = some other → other = client)
    (foreign : ∀ other, other ≠ client → ∀ due, command.moved other due = due)
    (spoken : author = some client → ∀ envelope, command = .broadcast envelope →
      envelope.Spoken ∧ old.room? = some envelope.room)
    (own : line.connection.client = client)
    (asks : ∀ command room, line.pump = .asking command room → line.connection.Asks command room)
    (reaches : ∀ due, (∀ room, old.room? = some room → due = some room) →
      ∀ room, line.room? = some room → command.moved client due = some room) :
    Sound
      { world := { board.world with
          loop := { board.world.loop with pending := board.world.loop.pending ++ [command] }
          loose := board.world.loose.diff (EventLoop.carried command) }
        lines := board.lines.insert client line
        authors := board.authors ++ [author] } := by
  refine sound.accepted loose (fun other known => Std.ExtTreeMap.mem_insert.mpr (.inr known)) ?_ ?_
  · intro other author
    cases mine other author
    exact ⟨Std.ExtTreeMap.mem_insert_self, fun envelope asked => (spoken author envelope asked).1⟩
  · intro other line' found'
    simp only [Std.ExtTreeMap.getElem?_insert, Std.LawfulEqCmp.compare_eq_iff_eq] at found'
    split at found'
    · next same =>
        cases found'
        subst same
        exact ⟨old, found, own, asks, fun author envelope asked => (spoken author envelope asked).2,
          reaches⟩
    · next apart =>
        obtain ⟨own', asks', -⟩ := sound.settled other line' found'
        refine ⟨line', found', own', asks', fun author => absurd (mine other author).symm apart, ?_⟩
        intro due reaches' room there
        rw [foreign other (Ne.symm apart)]
        exact reaches' room there

end Sound

/-- A line on which nothing begins. -/
theorem Settled.quieter {board : Switchboard} {client : ClientId} {old line : Line}
    (settled : board.Settled client old) (connection : line.connection = old.connection)
    (pump : line.pump = old.pump ∨ line.pump = .off) : board.Settled client line := by
  obtain ⟨own, asks, due, there, follows, reaches⟩ := settled
  refine ⟨connection ▸ own, fun command room asking => ?_, due, there, follows, fun room there => ?_⟩
  · rcases pump with same | off
    · rw [connection]
      exact asks command room (same ▸ asking)
    · exact nomatch off.symm.trans asking
  · rcases pump with same | off
    · refine reaches room ?_
      rw [← there, Line.room?, Line.room?, same, connection]
    · rw [Line.room?, off] at there
      exact nomatch there

namespace Sound

variable {board : Switchboard}

theorem lineStep (sound : board.Sound) {client : ClientId} {line : Line}
    (found : board.lines[client]? = some line) (move : SwitchboardMove) :
    (board.lineStep client line move).Sound := by
  have settled := sound.settled client line found
  have refused (gone : List Handle) := (sound.refused gone).settled client line found
  cases move with
  | enter other =>
      simp only [Switchboard.lineStep]
      split
      · rcases board.ask_cases none (.join line.connection.room ⟨client, line.connection.queue⟩) with
          waits | ⟨loose, accepts | refuses⟩
        · rw [waits]
          exact sound
        · rw [accepts]
          refine sound.put_accepted found loose (by simp) ?_ (by simp) settled.own (by simp) ?_
          · exact fun other apart due => if_neg (Ne.symm apart)
          · intro due _ room there
            rw [← there]
            exact if_pos rfl
        · rw [refuses]
          exact (sound.refused _).put ((refused _).quieter rfl (.inl rfl))
      · exact sound
  | frame other now data =>
      simp only [Switchboard.lineStep]
      split
      · next idle =>
          obtain ⟨own, -, due, there, follows, reaches⟩ := settled
          refine sound.put ⟨own, fun command room => Line.asks_pumpAfter, due, there, follows, ?_⟩
          intro room there
          refine reaches room ?_
          rw [← there]
          simp only [Line.room?, idle] at there ⊢
          split at there
          · exact nomatch there
          · rfl
      · exact sound
  | request other =>
      simp only [Switchboard.lineStep]
      split
      · next command room asking =>
          have asks := settled.asks command room asking
          have here : line.room? = some line.connection.room := by simp only [Line.room?, asking]
          rcases board.ask_cases (some client) command with waits | ⟨loose, accepts | refuses⟩
          · rw [waits]
            exact sound
          · rw [accepts]
            refine sound.put_accepted found loose ?_ ?_ ?_ settled.own (by simp) ?_
            · rintro other ⟨⟩
              rfl
            · intro other apart due
              rcases asks with rfl | ⟨envelope, rfl, -⟩
              · exact if_neg fun same => apart (same.symm.trans settled.own)
              · rfl
            · rintro - envelope rfl
              rcases asks with asked | ⟨envelope, asked, spoken, room, -⟩
              · exact nomatch asked
              · cases asked
                exact ⟨spoken, by rw [here, room]⟩
            · intro due reaches place there
              rw [← there]
              rcases asks with rfl | ⟨envelope, rfl, -, -, rfl⟩
              · exact if_pos settled.own
              · exact reaches _ here
          · rw [refuses]
            exact (sound.refused _).put ((refused _).quieter rfl (.inr rfl))
      · exact sound
  | hush other => exact sound.put (settled.quieter rfl (.inr rfl))
  | part other =>
      simp only [Switchboard.lineStep]
      split
      · exact sound.put (settled.quieter rfl (.inl rfl))
      · exact sound
  | leave other =>
      simp only [Switchboard.lineStep]
      split
      · rcases board.ask_cases none (.disconnect client) with waits | ⟨loose, accepts | refuses⟩
        · rw [waits]
          exact sound
        · rw [accepts]
          exact sound.put_accepted found loose (by simp) (fun _ _ _ => rfl) (by simp) settled.own
            settled.asks fun due reaches => reaches
        · rw [refuses]
          exact (sound.refused _).put ((refused _).quieter rfl (.inl rfl))
      · exact sound
  | _ => exact sound

/-- A new connection: nothing about its client is in the channel. -/
theorem dial (sound : board.Sound) {handle : Handle} (capacity : Nat) (room : String)
    (unknown : board.unknown handle.client = true) :
    (Switchboard.put { board with world := board.world.step (.connect handle capacity) } handle.client
      { connection := { client := handle.client, queue := handle.queue, room } }).Sound := by
  obtain ⟨roster, world⟩ := sound.world
  obtain ⟨roster', after, -⟩ := world.step (.connect handle capacity)
  have loop : (board.world.step (.connect handle capacity)).loop = board.world.loop := by
    simp only [World.step]
    split <;> rfl
  simp only [Switchboard.unknown, decide_eq_true_eq] at unknown
  obtain ⟨absent, nowhere, -⟩ := unknown
  have strange : ∀ entry ∈ board.mail, entry.1 ≠ some handle.client := by
    rintro ⟨author, command⟩ listed rfl
    exact absent (sound.written handle.client command listed).1
  refine (sound.unnoticed ⟨roster', after⟩ (by rw [loop]) (by rw [loop])).put
    ⟨rfl, ?_, none, ?_, ?_, ?_⟩
  · intro command room asking
    cases asking
  · rw [loop]
    exact .inl nowhere
  · simp only [Switchboard.mail, loop]
    exact follows_strange strange none
  · intro room there
    cases there

theorem step (sound : board.Sound) (move : SwitchboardMove) : (board.step move).Sound := by
  cases move with
  | dial handle capacity room =>
      simp only [Switchboard.step]
      split
      · next possible => exact sound.dial capacity room possible.1
      · exact sound
  | submit command =>
      simp only [Switchboard.step]
      split
      · next admitted => exact sound.submit admitted
      · exact sound
  | other move =>
      simp only [Switchboard.step]
      split
      · next allowed =>
          refine sound.other fun command same => ?_
          rw [same] at allowed
          exact nomatch allowed
      · exact sound
  | enter | frame | request | hush | part | leave =>
      simp only [Switchboard.step, SwitchboardMove.line?]
      split
      · next line found => exact sound.lineStep found _
      · exact sound

theorem run (sound : board.Sound) (moves : List SwitchboardMove) : (board.run moves).Sound := by
  induction moves generalizing board with
  | nil => exact sound
  | cons move moves ih => exact ih (sound.step move)

/-- The hub has the sender of a message that it processes in the room of the message, or nowhere. -/
theorem spoken (sound : board.Sound) {client : ClientId} {envelope : Envelope}
    {fanout : Option Bool}
    (processing : board.world.processing? (.advance fanout) = some (.broadcast envelope))
    (marked : board.authors.head? = some (some client)) :
    envelope.Spoken ∧ (board.world.loop.hub.registry.roomOf? client = none ∨
      board.world.loop.hub.registry.roomOf? client = some envelope.room) := by
  obtain ⟨-, rest, -, -, next⟩ := World.processing?_eq_some processing
  obtain ⟨authors, marked⟩ := List.head?_eq_some_iff.mp marked
  have mail : board.mail = (some client, .broadcast envelope) :: authors.zip rest := by
    rw [Switchboard.mail, marked, next, List.zip_cons_cons]
  have listed : (some client, .broadcast envelope) ∈ board.mail := by
    rw [mail]
    exact List.mem_cons_self
  obtain ⟨known, spoken⟩ := sound.written client _ listed
  obtain ⟨line, found⟩ :=
    Option.isSome_iff_exists.mp (Std.ExtTreeMap.mem_iff_isSome_getElem?.mp known)
  -- the message is the oldest request, so nothing comes between it and the hub
  obtain ⟨due, there, follows, -⟩ := (sound.settled client line found).placed
  rw [mail] at follows
  rw [follows.1 rfl envelope rfl] at there
  exact ⟨spoken envelope rfl, there⟩

/-- While no request about a client is in the channel, the hub has it where its pump is. -/
theorem agree (sound : board.Sound) {client : ClientId} {line : Line}
    (found : board.lines[client]? = some line) (runs : line.pump ≠ .off)
    (quiet : ∀ command ∈ board.world.loop.pending, command.subject? ≠ some client) :
    board.world.loop.hub.registry.roomOf? client = none ∨
      board.world.loop.hub.registry.roomOf? client = some line.connection.room := by
  obtain ⟨due, there, -, reaches⟩ := (sound.settled client line found).placed
  have strange : ∀ entry ∈ board.mail, entry.2.subject? ≠ some client := fun entry listed =>
    quiet entry.2 (List.of_mem_zip listed).2
  have here : line.room? = some line.connection.room := by
    unfold Line.room?
    split
    · next off => exact absurd off runs
    · rfl
  have last := reaches _ here
  rw [roomAfter_strange strange] at last
  rwa [last] at there

end Sound
end Switchboard

/-- A broadcast offers its payload to the queue of every member of the room, and to no queue of a
    member of another one. -/
theorem World.Sound.queue_step_broadcast {world : World} {roster : Roster}
    (sound : world.Sound roster) {envelope : Envelope} {fanout : Option Bool}
    (processing : world.processing? (.advance fanout) = some (.broadcast envelope))
    {client : ClientId} {room : String} {handle : Handle}
    (stored : roster[client]? = some (room, handle)) :
    ∃ queue after, world.queues[handle.queue]? = some queue ∧
      (world.step (.advance fanout)).queues[handle.queue]? = some after ∧
      after.Alike (if room = envelope.room then (queue.offer envelope.payload).2 else queue) := by
  have kept : roster.handleOf? client = some handle :=
    Roster.handleOf?_eq_some_iff.mpr ⟨room, stored⟩
  obtain ⟨queue, opened⟩ := Option.isSome_iff_exists.mp
    (Std.ExtTreeMap.mem_iff_isSome_getElem?.mp (sound.opened client handle kept))
  obtain ⟨after, stepped, alike⟩ := sound.queue_step (.advance fanout) opened
  have member : handle.queue ∈ (roster.membersOf envelope.room).map (fun member => member.2.queue) ↔
      room = envelope.room := by
    rw [List.mem_map]
    constructor
    · rintro ⟨⟨other, handle'⟩, listed, same⟩
      have stored' := Roster.mem_membersOf.mp listed
      have kept' := Roster.handleOf?_eq_some_iff.mpr ⟨_, stored'⟩
      cases sound.unshared other client handle' handle kept' kept same
      cases stored.symm.trans stored'
      rfl
    · rintro rfl
      exact ⟨(client, handle), Roster.mem_membersOf.mpr stored, rfl⟩
  refine ⟨queue, after, opened, stepped, ?_⟩
  simpa only [World.touched, processing, Command.offered, member] using alike

namespace Switchboard

/-- Whenever the hub processes a message of a connection's pump, its client is in the room that the
    message was sent to and in no other, or it is nowhere. The members of that room are offered the
    message, its sender among them, and no member of another room is. And as long as no request
    about the client is in the channel, the hub and the pump agree. -/
theorem sender_is_where_it_speaks (capacity : Nat) (moves : List SwitchboardMove) :
    let board := (start capacity).run moves
    let registry := board.world.loop.hub.registry
    (∀ client envelope fanout,
      board.world.processing? (.advance fanout) = some (.broadcast envelope) →
      board.authors.head? = some (some client) →
      envelope.Spoken ∧
      (registry.roomOf? client = none ∧ (∀ room, registry.handleIn? room client = none) ∨
        registry.roomOf? client = some envelope.room ∧
          ∃ handle, ∀ room, registry.handleIn? room client =
            if room = envelope.room then some handle else none) ∧
      ∀ room member handle, registry.handleIn? room member = some handle →
        ∃ queue after, board.world.queues[handle.queue]? = some queue ∧
          (board.step (.other (.advance fanout))).world.queues[handle.queue]? = some after ∧
          after.Alike (if room = envelope.room then (queue.offer envelope.payload).2 else queue)) ∧
    ∀ (client : ClientId) (line : Line), board.lines[client]? = some line → line.pump ≠ .off →
      (∀ command ∈ board.world.loop.pending, command.subject? ≠ some client) →
      registry.roomOf? client = none ∨ registry.roomOf? client = some line.connection.room := by
  intro board registry
  have sound : board.Sound := (Sound.start capacity).run moves
  clear_value board
  refine ⟨fun client envelope fanout processing marked => ?_, fun _ _ => sound.agree⟩
  obtain ⟨roster, world⟩ := sound.world
  have stored (room : String) (member : ClientId) (handle : Handle) :
      registry.handleIn? room member = some handle ↔ roster[member]? = some (room, handle) :=
    world.mirrors.stored room member handle
  have index : registry.roomOf? client = roster.roomOf? client := world.mirrors.index client
  obtain ⟨spoken, there⟩ := sound.spoken processing marked
  refine ⟨spoken, ?_, fun room member handle kept =>
    world.queue_step_broadcast processing ((stored room member handle).mp kept)⟩
  rcases there with nowhere | here
  · refine .inl ⟨nowhere, fun room => Option.eq_none_iff_forall_ne_some.mpr fun handle kept => ?_⟩
    have placed := Roster.roomOf?_eq_some_iff.mpr ⟨handle, (stored room client handle).mp kept⟩
    exact nomatch (index.symm.trans nowhere).symm.trans placed
  · refine .inr ⟨here, ?_⟩
    obtain ⟨handle, kept⟩ := Roster.roomOf?_eq_some_iff.mp (index.symm.trans here)
    refine ⟨handle, fun room => Option.ext fun other => ?_⟩
    rw [stored, kept]
    grind

/-- A client asks for another room and speaks at once, before the hub has moved it. -/
theorem sender_is_where_it_speaks_moving :
    let frame (text : String) : SwitchboardMove := .frame 1 ⟨0, 0, 0⟩ (Utf8.ofString text)
    let moves : List SwitchboardMove :=
      [.dial ⟨1, 1⟩ 4 "a", .enter 1, .dial ⟨2, 2⟩ 4 "a", .enter 2,
        frame "\x7b\"type\":\"join\",\"room\":\"b\"\x7d", .request 1,
        frame "\x7b\"type\":\"wave\"\x7d", .request 1,
        .other (.advance none), .other (.advance none), .other (.advance none)]
    let board := (start 8).run moves
    let wave : Envelope :=
      { room := "b", payload := Utf8.ofString "\x7b\"type\":\"wave\"\x7d", origin := .here }
    board.world.processing? (.advance none) = some (.broadcast wave) ∧
      board.authors.head? = some (some 1) ∧
      board.world.loop.hub.registry.roomOf? 1 = some "b" ∧
      ∃ queue after, board.world.queues[2]? = some queue ∧
        (board.step (.other (.advance none))).world.queues[2]? = some after ∧ after.Alike queue := by
  intro frame moves board wave
  have processing : board.world.processing? (.advance none) = some (.broadcast wave) := by
    decide +kernel
  have marked : board.authors.head? = some (some 1) := by decide +kernel
  have registered : board.world.loop.hub.registry.roomOf? 1 ≠ none := by decide +kernel
  have elsewhere : board.world.loop.hub.registry.handleIn? "a" 2 = some ⟨2, 2⟩ := by decide +kernel
  have speaks := (sender_is_where_it_speaks 8 moves).1 1 wave none
  have ran : (start 8).run moves = board := rfl
  rw [ran] at speaks
  clear_value board
  obtain ⟨-, there, offered⟩ := speaks processing marked
  rcases there with ⟨nowhere, -⟩ | ⟨here, -⟩
  · exact absurd nowhere registered
  · obtain ⟨queue, after, opened, stepped, alike⟩ := offered "a" 2 ⟨2, 2⟩ elsewhere
    rw [if_neg (by simp [wave])] at alike
    exact ⟨processing, marked, here, queue, after, opened, stepped, alike⟩

end Switchboard
end ChatRelay
