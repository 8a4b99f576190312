import ChatRelay.Proofs.Server.Whereabouts

/-! # Clients whose connection is over

A connection has its client join once, before anything else, and has it disconnect at its end. Only
a join registers a client that is not registered, so the pump that goes on for a while after the end
cannot bring the client back: its switches find nobody, and a message is not about a client.
-/

namespace ChatRelay

/-- Whether a command registers a client that is not registered. -/
def Command.brings (client : ClientId) : Command → Prop
  | .join _ handle => handle.client = client
  | _ => False

theorem Command.seated_none {answer : QueueId → Bytes → Offer} {client : ClientId}
    {command : Command} (other : ¬command.brings client) :
    command.seated answer client none = none := by
  cases command with
  | join room handle => exact if_neg other
  | leave | switch | disconnect => exact ite_self none
  | broadcast | snapshot => rfl

/-- A command by which a client neither joins nor disconnects. -/
def Command.Apart (client : ClientId) (command : Command) : Prop :=
  ¬command.brings client ∧ command ≠ .disconnect client

/-- A pump neither joins nor disconnects. -/
theorem Connection.Asks.apart {connection : Connection} {command : Command} {room : String}
    (asks : connection.Asks command room) (client : ClientId) : command.Apart client := by
  rcases asks with rfl | ⟨envelope, rfl, -⟩
  · exact ⟨id, nofun⟩
  · exact ⟨id, nofun⟩

namespace EventLoop

/-- The loop with a request at the end of its channel, if there is one. -/
def asked (loop : EventLoop) (request : Option Command) : EventLoop :=
  { loop with pending := loop.pending ++ request.toList }

/-- A client is not registered, and no request will register it. -/
structure Absent (loop : EventLoop) (client : ClientId) : Prop where
  nowhere : loop.hub.registry.roomOf? client = none
  unbidden : ∀ command ∈ loop.pending, ¬command.brings client

theorem Absent.asked {loop : EventLoop} {client : ClientId} (absent : loop.Absent client)
    {request : Option Command} (other : ∀ command ∈ request, ¬command.brings client) :
    (loop.asked request).Absent client where
  nowhere := absent.nowhere
  unbidden := by
    intro command listed
    rcases List.mem_append.mp listed with before | new
    · exact absent.unbidden command before
    · exact other command (Option.mem_toList.mp new)

end EventLoop

namespace World.Sound

variable {world : World} {roster : Roster}

/-- Where a client is once a request is processed. -/
theorem roomOf?_step (sound : world.Sound roster) {move : WorldMove} {command : Command}
    (processed : world.processing? move = some command) (client : ClientId) :
    (world.step move).loop.hub.registry.roomOf? client =
      (command.seated world.queues.answer client roster[client]?).map Prod.fst := by
  rw [← sound.mirrors.getElem?_processing]
  exact (sound.step_processing processed).mirrors.index client

theorem absent_step (sound : world.Sound roster) {client : ClientId}
    (absent : world.loop.Absent client) {move : WorldMove} (quiet : ∀ command, move ≠ .submit command) :
    (world.step move).loop.Absent client := by
  obtain ⟨nowhere, unbidden⟩ := absent
  rcases world.channel_cases quiet with
    ⟨command, rest, processed, next, left⟩ | ⟨pending, registry⟩ | ⟨pending, registry⟩
  · have unseated : roster[client]? = none :=
      Option.map_eq_none_iff.mp ((sound.mirrors.index client).symm.trans nowhere)
    rw [next] at unbidden
    constructor
    · rw [sound.roomOf?_step processed, unseated,
        Command.seated_none (unbidden command List.mem_cons_self), Option.map_none]
    · intro later listed
      rw [left] at listed
      exact unbidden later (List.mem_cons_of_mem _ listed)
  · exact ⟨by rw [registry, nowhere], by rwa [pending]⟩
  · exact ⟨by rw [registry]; simp [Registry.roomOf?], by simp [pending]⟩

end World.Sound

/-- What the task of a connection may do next, with the request that it makes and what becomes of
    its line. -/
inductive Line.Turn (loop : EventLoop) (client : ClientId) (line : Line) : Option Command → Line → Prop
  | join (joining : line.stage = .joining) :
      Turn loop client line (some (.join line.connection.room ⟨client, line.connection.queue⟩))
        { line with stage := .joined, pump := .idle }
  | refused (joining : line.stage = .joining) : Turn loop client line none { line with stage := .over }
  | frame (idle : line.pump = .idle) (pump : Pump) : Turn loop client line none { line with pump }
  | ask {command : Command} {room : String} (asking : line.pump = .asking command room) :
      Turn loop client line (some command)
        { line with connection := { line.connection with room }, pump := .idle }
  | hush : Turn loop client line none { line with pump := .off }
  | part (joined : line.stage = .joined) : Turn loop client line none { line with stage := .leaving }
  | disconnect (leaving : line.stage = .leaving) :
      Turn loop client line (some (.disconnect client)) { line with stage := .over }
  | unheard (leaving : line.stage = .leaving) (ended : loop.running = false) :
      Turn loop client line none { line with stage := .over }

/-- A connection begins once. -/
theorem Line.Turn.stage {loop : EventLoop} {client : ClientId} {line turned : Line} {request : Option Command}
    (turn : line.Turn loop client request turned) (joining : turned.stage = .joining) :
    line.stage = .joining := by
  cases turn with
  | frame | ask | hush => exact joining
  | join | refused | part | disconnect | unheard => cases joining

namespace Switchboard

variable {board after : Switchboard} {client : ClientId}

/-- What a step comes to. -/
inductive Turn (board : Switchboard) (move : SwitchboardMove) (after : Switchboard) : Prop
  | world (step : WorldMove) (other : move = .other step) (quiet : ∀ command, step ≠ .submit command)
      (world : after.world = board.world.step step) (lines : after.lines = board.lines)
  | request (request : Option Command) (admitted : ∀ command ∈ request, board.admits command = true)
      (loop : after.world.loop = board.world.loop.asked request) (lines : after.lines = board.lines)
  | dial (handle : Handle) (room : String) (unknown : board.unknown handle.client = true)
      (loop : after.world.loop = board.world.loop)
      (lines : after.lines = board.lines.insert handle.client
        { connection := { client := handle.client, queue := handle.queue, room } })
  | line (client : ClientId) (line : Line) (request : Option Command) (turned : Line)
      (found : board.lines[client]? = some line)
      (turn : line.Turn board.world.loop client request turned)
      (loop : after.world.loop = board.world.loop.asked request)
      (lines : after.lines = board.lines.insert client turned)

/-- A step that comes to nothing. -/
theorem Turn.none {move : SwitchboardMove} : board.Turn move board :=
  .request .none (by simp) (by simp [EventLoop.asked]) rfl

/-- Only a loop that has ended refuses a request. -/
theorem running_of_refused {author : Option ClientId} {command : Command}
    (refused : (board.ask author command).1 = .refused) : board.world.loop.running = false := by
  simp only [ask] at refused
  split at refused
  · change (board.world.loop.submit command).1 = .refused at refused
    rw [EventLoop.running_of_submit (Prod.eta _).symm, refused]
    rfl
  · cases refused

theorem turn_line {line : Line} (found : board.lines[client]? = some line) (move : SwitchboardMove) :
    board.Turn move (board.lineStep client line move) := by
  have silent : board.world.loop = board.world.loop.asked .none := by simp [EventLoop.asked]
  cases move with
  | enter other =>
      simp only [lineStep]
      split
      · next joining =>
          rcases board.ask_cases .none (.join line.connection.room ⟨client, line.connection.queue⟩) with
            waits | ⟨-, accepts | refuses⟩
          · rw [waits]
            exact .none
          · rw [accepts]
            exact .line client line _ _ found (.join joining) rfl rfl
          · rw [refuses]
            exact .line client line _ _ found (.refused joining) silent rfl
      · exact .none
  | frame other now data =>
      simp only [lineStep]
      split
      · next idle => exact .line client line _ _ found (.frame idle _) silent rfl
      · exact .none
  | request other =>
      simp only [lineStep]
      split
      · next command room asking =>
          rcases board.ask_cases (some client) command with waits | ⟨-, accepts | refuses⟩
          · rw [waits]
            exact .none
          · rw [accepts]
            exact .line client line _ _ found (.ask asking) rfl rfl
          · rw [refuses]
            exact .line client line _ _ found .hush silent rfl
      · exact .none
  | hush other => exact .line client line _ _ found .hush silent rfl
  | part other =>
      simp only [lineStep]
      split
      · next joined => exact .line client line _ _ found (.part joined) silent rfl
      · exact .none
  | leave other =>
      simp only [lineStep]
      split
      · next leaving =>
          rcases board.ask_cases .none (.disconnect client) with waits | ⟨-, accepts | refuses⟩
          · rw [waits]
            exact .none
          · rw [accepts]
            exact .line client line _ _ found (.disconnect leaving) rfl rfl
          · have ended := running_of_refused (congrArg Prod.fst refuses)
            rw [refuses]
            exact .line client line _ _ found (.unheard leaving ended) silent rfl
      · exact .none
  | _ => exact .none

theorem turn (board : Switchboard) (move : SwitchboardMove) : board.Turn move (board.step move) := by
  cases move with
  | dial handle capacity room =>
      simp only [step]
      split
      · next possible =>
          refine .dial handle room possible.1 ?_ rfl
          simp only [put, World.step]
          split <;> rfl
      · exact .none
  | submit command =>
      simp only [step]
      split
      · next admitted =>
          rcases board.ask_cases .none command with waits | ⟨-, accepts | refuses⟩
          · rw [waits]
            exact .none
          · rw [accepts]
            exact .request (some command) (by simpa using admitted) rfl rfl
          · rw [refuses]
            exact .request .none (by simp) (by simp [EventLoop.asked]) rfl
      · exact .none
  | other move =>
      simp only [step]
      split
      · next allowed =>
          refine .world move rfl ?_ rfl rfl
          rintro command rfl
          cases allowed
      · exact .none
  | enter | frame | request | hush | part | leave =>
      simp only [step, SwitchboardMove.line?]
      split
      · next line found => exact turn_line found _
      · exact .none

/-- A connection has only its own client join, and only when it begins. -/
theorem Settled.brings {other : ClientId} {line turned : Line} {request : Option Command}
    (settled : board.Settled other line)
    (turn : line.Turn board.world.loop other request turned) {command : Command}
    (asked : command ∈ request) (brings : command.brings client) :
    other = client ∧ line.stage = .joining := by
  cases turn with
  | join joining =>
      cases asked
      exact ⟨brings, joining⟩
  | ask asking =>
      cases asked
      exact absurd brings ((settled.asks _ _ asking).apart client).1
  | disconnect leaving =>
      cases asked
      cases brings
  | refused | frame | hush | part | unheard => cases asked

/-- Nor does it have another client disconnect. -/
theorem Settled.apart {other : ClientId} {line turned : Line} {request : Option Command}
    (settled : board.Settled other line)
    (turn : line.Turn board.world.loop other request turned) (different : other ≠ client)
    {command : Command} (asked : command ∈ request) : command.Apart client := by
  refine ⟨fun brings => different (settled.brings turn asked brings).1, ?_⟩
  rintro rfl
  cases turn with
  | join => cases asked
  | ask asking =>
      cases asked
      exact ((settled.asks _ _ asking).apart client).2 rfl
  | disconnect leaving =>
      cases asked
      exact different rfl
  | refused | frame | hush | part | unheard => cases asked

/-- Nobody else has the client of a connection join or disconnect. -/
theorem apart_admitted {command : Command} (admitted : board.admits command = true)
    (known : client ∈ board.lines) : command.Apart client := by
  constructor
  · intro brings
    cases command with
    | join room handle =>
        cases brings
        simp [admits, known] at admitted
    | _ => exact brings
  · rintro rfl
    simp [admits, known] at admitted

/-- Nothing but the loop changes the hub. -/
theorem Turn.hub {move : SwitchboardMove} (turn : board.Turn move after)
    (apart : ∀ step, move ≠ .other step) : after.world.loop.hub = board.world.loop.hub ∧
      after.world.loop.running = board.world.loop.running := by
  cases turn with
  | world step other => exact absurd other (apart step)
  | request request admitted loop => exact ⟨by rw [loop]; rfl, by rw [loop]; rfl⟩
  | dial handle room unknown loop => exact ⟨by rw [loop], by rw [loop]⟩
  | line client line request turned found turn loop => exact ⟨by rw [loop]; rfl, by rw [loop]; rfl⟩

/-- What becomes of a line: it stays as it is, or the connection has made a step. -/
theorem Turn.line_cases {move : SwitchboardMove} (turn : board.Turn move after) {line : Line}
    (found : board.lines[client]? = some line) :
    after.lines[client]? = some line ∨
      ∃ request turned, line.Turn board.world.loop client request turned ∧
        after.lines[client]? = some turned := by
  cases turn with
  | world step other quiet world lines => exact .inl (by rw [lines, found])
  | request request admitted loop lines => exact .inl (by rw [lines, found])
  | dial handle room unknown loop lines =>
      have apart : handle.client ≠ client := by
        rintro rfl
        simp [Switchboard.unknown, Std.ExtTreeMap.mem_iff_isSome_getElem?, found] at unknown
      rw [lines, Std.ExtTreeMap.getElem?_insert]
      exact .inl (by simp [apart, found])
  | line other old request turned there turn loop lines =>
      rw [lines]
      by_cases same : other = client
      · subst same
        cases found.symm.trans there
        exact .inr ⟨request, turned, turn, by simp⟩
      · rw [Std.ExtTreeMap.getElem?_insert]
        exact .inl (by simp [same, found])

/-- A connection that is over and has no pump stays so. -/
theorem Turn.ended {move : SwitchboardMove} (turn : board.Turn move after) {line : Line}
    (found : board.lines[client]? = some line) (parted : line.stage = .over) (off : line.pump = .off) :
    after.lines[client]? = some line := by
  rcases turn.line_cases found with same | ⟨request, turned, turn, there⟩
  · exact same
  · cases turn with
    | hush =>
        rw [there, ← off]
    | join stage | refused stage | part stage | disconnect stage | unheard stage =>
        cases parted.symm.trans stage
    | frame pump | ask pump => cases off.symm.trans pump

/-- It takes no step. -/
theorem step_ended {line : Line} (found : board.lines[client]? = some line)
    (parted : line.stage = .over) (off : line.pump = .off) {move : SwitchboardMove}
    (own : move.line? = some client) : board.step move = board := by
  cases move with
  | hush =>
      cases own
      have same : { line with pump := .off } = line := by rw [← off]
      have lines : board.lines.insert client line = board.lines := by
        refine Std.ExtTreeMap.ext_getElem? fun other => ?_
        rw [Std.ExtTreeMap.getElem?_insert]
        split
        · next same => rw [← Std.LawfulEqCmp.compare_eq_iff_eq.mp same, found]
        · rfl
      simp only [step, SwitchboardMove.line?, found, lineStep, same, put, lines]
  | enter | frame | request | part | leave =>
      cases own
      simp [step, SwitchboardMove.line?, found, lineStep, parted, off]
  | dial | submit | other => cases own

/-- A connection that is past its beginning. -/
def Past (board : Switchboard) (client : ClientId) : Prop :=
  ∃ line, board.lines[client]? = some line ∧ line.stage ≠ .joining

theorem Past.known (past : board.Past client) : client ∈ board.lines := by
  obtain ⟨line, found, -⟩ := past
  simp [Std.ExtTreeMap.mem_iff_isSome_getElem?, found]

theorem Past.turn (past : board.Past client) {move : SwitchboardMove}
    (turn : board.Turn move after) : after.Past client := by
  obtain ⟨line, found, past⟩ := past
  rcases turn.line_cases found with same | ⟨request, turned, turn, there⟩
  · exact ⟨line, same, past⟩
  · exact ⟨turned, there, fun joining => past (turn.stage joining)⟩

/-- The client of a connection that is past its beginning is not registered and will not be. -/
structure Gone (board : Switchboard) (client : ClientId) : Prop where
  absent : board.world.loop.Absent client
  past : board.Past client

theorem Gone.turn (gone : board.Gone client) (sound : board.Sound) {move : SwitchboardMove}
    (turn : board.Turn move after) : after.Gone client := by
  refine ⟨?_, gone.past.turn turn⟩
  obtain ⟨absent, past⟩ := gone
  cases turn with
  | world step other quiet world lines =>
      obtain ⟨roster, before⟩ := sound.world
      rw [world]
      exact before.absent_step absent quiet
  | request request admitted loop lines =>
      rw [loop]
      exact absent.asked fun command asked =>
        (apart_admitted (admitted command asked) past.known).1
  | dial handle room unknown loop lines =>
      rw [loop]
      exact absent
  | line other old request turned there turn loop lines =>
      rw [loop]
      refine absent.asked fun command asked brings => ?_
      obtain ⟨rfl, joining⟩ := (sound.settled other old there).brings turn asked brings
      obtain ⟨line, found, later⟩ := past
      cases found.symm.trans there
      exact later joining

end Switchboard

/-- What holds of the client of a connection between any two steps. -/
structure Line.Orderly (line : Line) (loop : EventLoop) (client : ClientId) : Prop where
  begins : line.stage = .joining → line.pump = .off ∧ loop.Absent client
  leaves : .disconnect client ∈ loop.pending → line.stage = .over
  last : loop.pending.Pairwise fun earlier later =>
    earlier = .disconnect client → ¬later.brings client
  parted : line.stage = .over → loop.running = true →
    .disconnect client ∈ loop.pending ∨ loop.Absent client

namespace Line.Orderly

variable {line turned : Line} {loop : EventLoop} {client : ClientId}

/-- Somebody else makes a request, or the connection makes one of its pump. -/
theorem asked (orderly : line.Orderly loop client) {request : Option Command}
    (other : ∀ command ∈ request, command.Apart client) : line.Orderly (loop.asked request) client := by
  obtain ⟨begins, leaves, last, parted⟩ := orderly
  have unbidden := fun command asked => (other command asked).1
  constructor
  · exact fun joining => (begins joining).imp_right (·.asked unbidden)
  · intro listed
    rcases List.mem_append.mp listed with before | new
    · exact leaves before
    · exact absurd rfl (other _ (Option.mem_toList.mp new)).2
  · refine List.pairwise_append.mpr ⟨last, ?_, fun _ _ command asked _ =>
      unbidden command (Option.mem_toList.mp asked)⟩
    cases request with
    | none => exact .nil
    | some command => exact List.pairwise_singleton ..
  · intro stage running
    rcases parted stage running with listed | absent
    · exact .inl (List.mem_append_left _ listed)
    · exact .inr (absent.asked unbidden)

/-- A step of the connection that does not end a stage. -/
theorem stays (orderly : line.Orderly loop client) (stage : turned.stage = line.stage)
    (pump : line.pump = .off → turned.pump = .off) : turned.Orderly loop client := by
  obtain ⟨begins, leaves, last, parted⟩ := orderly
  constructor
  · exact fun joining => (begins (stage.symm.trans joining)).imp_left pump
  · exact fun listed => stage.trans (leaves listed)
  · exact last
  · exact fun ended => parted (stage.symm.trans ended)

theorem turn {board : Switchboard} (orderly : line.Orderly board.world.loop client)
    (settled : board.Settled client line) {request : Option Command}
    (turn : line.Turn board.world.loop client request turned) :
    turned.Orderly (board.world.loop.asked request) client := by
  have silent : board.world.loop.asked none = board.world.loop := by simp [EventLoop.asked]
  cases turn with
  | join joining =>
      have listed : .disconnect client ∉ board.world.loop.pending := fun listed =>
        nomatch joining.symm.trans (orderly.leaves listed)
      constructor
      · exact nofun
      · intro there
        simp [EventLoop.asked, listed] at there
      · refine List.pairwise_append.mpr ⟨orderly.last, List.pairwise_singleton .., ?_⟩
        rintro _ there - - rfl
        exact absurd there listed
      · exact nofun
  | refused joining =>
      rw [silent]
      exact ⟨nofun, fun _ => rfl, orderly.last, fun _ _ => .inr (orderly.begins joining).2⟩
  | frame idle pump =>
      rw [silent]
      exact orderly.stays rfl fun off => nomatch idle.symm.trans off
  | ask asking =>
      refine (orderly.asked ?_).stays rfl fun off => nomatch asking.symm.trans off
      intro command asked
      cases asked
      exact (settled.asks _ _ asking).apart client
  | hush =>
      rw [silent]
      exact orderly.stays rfl fun _ => rfl
  | part joined =>
      rw [silent]
      refine ⟨nofun, fun listed => ?_, orderly.last, nofun⟩
      cases joined.symm.trans (orderly.leaves listed)
  | disconnect leaving =>
      constructor
      · exact nofun
      · exact fun _ => rfl
      · refine List.pairwise_append.mpr ⟨orderly.last, List.pairwise_singleton .., ?_⟩
        rintro _ - _ asked -
        cases List.mem_singleton.mp asked
        exact id
      · exact fun _ _ => .inl (List.mem_append_right _ List.mem_cons_self)
  | unheard leaving ended =>
      rw [silent]
      refine ⟨nofun, fun _ => rfl, orderly.last, fun _ running => ?_⟩
      cases ended.symm.trans running

/-- The hub processes the disconnect of a client, which is the last request that is about it. -/
theorem disconnected {world : World} {roster : Roster} (orderly : line.Orderly world.loop client)
    (sound : world.Sound roster) {move : WorldMove}
    (processed : world.processing? move = some (.disconnect client)) :
    (world.step move).loop.Absent client := by
  obtain ⟨fanout, rest, rfl, -, next⟩ := World.processing?_eq_some processed
  have last := orderly.last
  rw [next, List.pairwise_cons] at last
  constructor
  · rw [sound.roomOf?_step processed]
    simp [Command.seated]
  · rcases world.advance_cases fanout with ⟨command, rest', -, next', steps⟩ | ⟨idle, -⟩
    · cases next.symm.trans next'
      rw [steps]
      exact fun later listed => last.1 later listed rfl
    · cases processed.symm.trans idle

theorem step {world : World} {roster : Roster} (orderly : line.Orderly world.loop client)
    (sound : world.Sound roster) {move : WorldMove} (quiet : ∀ command, move ≠ .submit command) :
    line.Orderly (world.step move).loop client := by
  obtain ⟨begins, leaves, last, parted⟩ := orderly
  have still := fun absent : world.loop.Absent client => sound.absent_step absent quiet
  rcases world.channel_cases quiet with
    ⟨command, rest, processed, next, left⟩ | ⟨pending, -⟩ | ⟨pending, registry⟩
  · rw [next] at leaves last
    constructor
    · exact fun joining => (begins joining).imp_right still
    · rw [left]
      exact fun listed => leaves (List.mem_cons_of_mem _ listed)
    · rw [left]
      exact (List.pairwise_cons.mp last).2
    · intro stage running
      rcases parted stage (World.running_of_step running) with listed | absent
      · rw [next] at listed
        rcases List.mem_cons.mp listed with rfl | later
        · exact .inr (disconnected ⟨begins, by rwa [next], by rwa [next], parted⟩ sound processed)
        · exact .inl (by rwa [left])
      · exact .inr (still absent)
  · constructor
    · exact fun joining => (begins joining).imp_right still
    · rwa [pending]
    · rwa [pending]
    · intro stage running
      rw [pending]
      exact (parted stage (World.running_of_step running)).imp_right still
  · constructor
    · exact fun joining => (begins joining).imp_right still
    · simp [pending]
    · simp [pending]
    · exact fun _ _ => .inr ⟨by simp [registry, Registry.roomOf?], by simp [pending]⟩

end Line.Orderly
namespace Switchboard

/-- What holds between any two steps. -/
structure Orderly (board : Switchboard) : Prop where
  sound : board.Sound
  lines : ∀ (client : ClientId) (line : Line), board.lines[client]? = some line →
    line.Orderly board.world.loop client

namespace Orderly

variable {board after : Switchboard} {client : ClientId}

theorem start (capacity : Nat) : (Switchboard.start capacity).Orderly where
  sound := .start capacity
  lines := by simp [Switchboard.start]

theorem turn (orderly : board.Orderly) (sound : after.Sound) {move : SwitchboardMove}
    (turn : board.Turn move after) : after.Orderly := by
  refine ⟨sound, fun client line found => ?_⟩
  cases turn with
  | world step other quiet world lines =>
      obtain ⟨roster, before⟩ := orderly.sound.world
      rw [lines] at found
      rw [world]
      exact (orderly.lines client line found).step before quiet
  | request request admitted loop lines =>
      rw [lines] at found
      have known : client ∈ board.lines := by simp [Std.ExtTreeMap.mem_iff_isSome_getElem?, found]
      rw [loop]
      exact (orderly.lines client line found).asked fun command asked =>
        apart_admitted (admitted command asked) known
  | dial handle room unknown loop lines =>
      rw [lines, Std.ExtTreeMap.getElem?_insert] at found
      rw [loop]
      simp only [Std.LawfulEqCmp.compare_eq_iff_eq] at found
      split at found
      · next same =>
          cases found
          subst same
          simp only [Switchboard.unknown, decide_eq_true_eq] at unknown
          obtain ⟨-, nowhere, unheard⟩ := unknown
          have unbidden : ∀ command ∈ board.world.loop.pending, ¬command.brings handle.client := by
            intro command listed brings
            cases command with
            | join room given => exact unheard _ listed (congrArg some brings)
            | _ => exact brings
          constructor
          · exact fun _ => ⟨rfl, nowhere, unbidden⟩
          · exact fun listed => absurd rfl (unheard _ listed)
          · refine List.pairwise_of_forall_mem_list fun _ listed _ _ same => ?_
            subst same
            exact absurd rfl (unheard _ listed)
          · intro parted
            cases parted
      · exact orderly.lines client line found
  | line other old request turned there turn loop lines =>
      have settled := orderly.sound.settled other old there
      rw [lines, Std.ExtTreeMap.getElem?_insert] at found
      rw [loop]
      simp only [Std.LawfulEqCmp.compare_eq_iff_eq] at found
      split at found
      · next same =>
          cases found
          subst same
          exact (orderly.lines other old there).turn settled turn
      · next apart =>
          exact (orderly.lines client line found).asked fun command asked =>
            settled.apart turn apart asked

theorem step (orderly : board.Orderly) (move : SwitchboardMove) : (board.step move).Orderly :=
  orderly.turn (orderly.sound.step move) (board.turn move)

end Orderly
end Switchboard
end ChatRelay
