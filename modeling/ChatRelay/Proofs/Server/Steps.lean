import ChatRelay.Proofs.Server.Operations
import ChatRelay.Proofs.Server.Premises

/-! # Premises in single steps

What a step of somebody on some premises comes to when the loop has nothing to do: a request that is
made then is dealt with as soon as the loop runs, and nobody else is touched.
-/

namespace ChatRelay

/-- A loop with nothing to do that somebody holds. It may have ended. -/
structure EventLoop.Rests (loop : EventLoop) : Prop where
  quiet : loop.pending = []
  held : loop.handles ≠ 0
  room : 0 < loop.capacity

theorem EventLoop.Rests.ready {loop : EventLoop} (rests : loop.Rests)
    (running : loop.running = true) : loop.Ready :=
  ⟨running, rests.quiet, rests.held, rests.room⟩

namespace Venue

variable {venue : Venue} {command : Command}

/-- A request of a loop that has nothing else to do is dealt with at once. -/
def submit (venue : Venue) (command : Command) : Venue :=
  let (_, node, queues) := venue.node.submit command venue.queues
  { node, queues, loose := venue.loose.diff (EventLoop.carried command) }

theorem submit_running (rests : venue.node.loop.Rests) (running : venue.node.loop.running = true) :
    venue.submit command =
      let step := venue.node.loop.hub.process venue.node.fanout command venue.queues
      { node := Node.absorbStep
          { venue.node with loop := { venue.node.loop with hub := step.hub } } step.events
        queues := step.queues
        loose := venue.loose.diff (EventLoop.carried command) } := by
  rw [submit, (rests.ready running).node_submit]

theorem submit_ended (ended : venue.node.loop.running = false) :
    venue.submit command = { venue with
      queues := venue.queues.release (EventLoop.carried command)
      loose := venue.loose.diff (EventLoop.carried command) } := by
  simp [submit, Node.submit, EventLoop.submit, ended]

/-- The venue while a request waits that was just made. -/
def asked (venue : Venue) (command : Command) : Venue :=
  { node := { venue.node with loop := { venue.node.loop with pending := [command] } }
    queues := venue.queues
    loose := venue.loose.diff (EventLoop.carried command) }

theorem advance_asked (rests : venue.node.loop.Rests)
    (running : venue.node.loop.running = true) :
    ((venue.asked command).step (.world (.advance none))).2 = venue.submit command := by
  have there : (venue.asked command).node.loop.running = true := running
  rw [step_advance there rfl, submit_running rests running]
  simp only [asked, rests.quiet]
  rfl

theorem advance_ended (ended : venue.node.loop.running = false) :
    (venue.step (.world (.advance none))).2 = venue := by
  simp only [step, Node.advance, EventLoop.advance_ended ended]

theorem rests_submit (rests : venue.node.loop.Rests) :
    (venue.submit command).node.loop.Rests ∧
      (venue.submit command).node.loop.running = venue.node.loop.running := by
  cases running : venue.node.loop.running with
  | true =>
      rw [submit_running rests running]
      simp only [Node.absorbStep, Node.loop_foldl_absorb]
      exact ⟨⟨rests.quiet, rests.held, rests.room⟩, running⟩
  | false =>
      rw [submit_ended running]
      exact ⟨rests, running⟩

section Registry

variable {roster : Roster} (rests : venue.node.loop.Rests)
  (mirrors : venue.node.loop.hub.registry.Mirrors roster) (unshared : roster.Unshared)

include rests mirrors unshared

theorem mem_queues_submit {id : QueueId} :
    id ∈ (venue.submit command).queues ↔ id ∈ venue.queues := by
  cases running : venue.node.loop.running with
  | true =>
      obtain ⟨_, -, changed⟩ :=
        mirrors.process_queues unshared venue.node.fanout command venue.queues
      simp only [submit_running rests running, Std.ExtTreeMap.mem_iff_isSome_getElem?, changed,
        Option.isSome_map]
  | false =>
      rw [submit_ended running]
      exact Queues.mem_release

/-- Only a join registers a client. -/
theorem roomOf?_submit {client : ClientId} (other : ¬command.brings client)
    (nowhere : venue.node.loop.hub.registry.roomOf? client = none) :
    (venue.submit command).node.loop.hub.registry.roomOf? client = none := by
  cases running : venue.node.loop.running with
  | true =>
      have after := mirrors.process unshared venue.node.fanout command venue.queues
      have absent : roster[client]? = none :=
        Option.map_eq_none_iff.mp ((mirrors.index client).symm.trans nowhere)
      simp only [submit_running rests running, Node.absorbStep, Node.loop_foldl_absorb]
      refine (after.index client).trans ?_
      rw [Roster.roomOf?, mirrors.getElem?_processing, absent, Command.seated_none other,
        Option.map_none]
  | false =>
      rw [submit_ended running]
      exact nowhere

end Registry
end Venue

namespace Switchboard

variable {board : Switchboard} {command : Command}

theorem ask_running (ready : board.world.loop.Ready) (author : Option ClientId)
    (loose : EventLoop.carried command ⊆ board.world.loose) :
    board.ask author command = (.accepted,
      { board with
        world := { board.world with
          loop := { board.world.loop with pending := [command] }
          loose := board.world.loose.diff (EventLoop.carried command) }
        authors := board.authors ++ [author] }) := by
  have held : board.world.loop.canUpgrade = true := by simp [EventLoop.canUpgrade, ready.held]
  simp [ask, World.step, held, loose, ready.submit]

theorem ask_ended (held : board.world.loop.handles ≠ 0) (ended : board.world.loop.running = false)
    (author : Option ClientId) (loose : EventLoop.carried command ⊆ board.world.loose) :
    board.ask author command = (.refused,
      { board with
        world := { board.world with
          queues := board.world.queues.release (EventLoop.carried command)
          loose := board.world.loose.diff (EventLoop.carried command) } }) := by
  simp [ask, World.step, EventLoop.canUpgrade, held, loose, EventLoop.submit, ended]

/-- A loop that has nothing to do accepts every request, unless it has ended. -/
theorem ask_fst (rests : board.world.loop.Rests) (author : Option ClientId)
    (loose : EventLoop.carried command ⊆ board.world.loose) :
    (board.ask author command).1 = if board.world.loop.running then .accepted else .refused := by
  cases running : board.world.loop.running with
  | true => rw [ask_running (rests.ready running) author loose, if_pos rfl]
  | false =>
      rw [ask_ended rests.held running author loose]
      rfl

end Switchboard

namespace Premises

/-- A connection takes a step. -/
theorem step_line {premises : Premises} {client : ClientId} {line : Line} {move : SwitchboardMove}
    (own : move.line? = some client) (found : premises.board.lines[client]? = some line)
    (permitted : premises.permits move = true) :
    premises.step (.board move) =
      { premises with board := premises.board.lineStep client line move } := by
  rw [step, if_pos permitted]
  cases move with
  | dial | submit | other => cases own
  | enter | frame | request | hush | part | leave =>
      cases own
      simp only [operate, actual, Switchboard.step, SwitchboardMove.line?, found]

/-- What premises are like, as far as it matters to what can happen there. -/
structure Looks (premises : Premises) (venue : Venue) (lines : Std.ExtTreeMap ClientId Line)
    (counted : Std.ExtTreeSet ClientId) : Prop where
  venue : premises.venue = venue
  lines : premises.board.lines = lines
  counted : premises.counted = counted

namespace Looks

variable {premises : Premises} {venue : Venue} {lines : Std.ExtTreeMap ClientId Line}
  {counted : Std.ExtTreeSet ClientId} {client : ClientId} {line : Line} {command : Command}

/-- Something happens in which no connection has a part. -/
theorem world (looks : premises.Looks venue lines counted) (move : WorldMove)
    (allowed : premises.board.allows move = true) :
    (premises.step (.board (.other move))).Looks (venue.step (.world move)).2 lines counted := by
  obtain ⟨rfl, rfl, rfl⟩ := looks
  have permitted : premises.permits (.other move) = true := allowed
  have actual : premises.board.allows (premises.venue.actual move) = true := by
    cases move <;> exact allowed
  rw [step, if_pos permitted]
  refine ⟨venue_operate permitted, ?_, rfl⟩
  change (premises.board.step (.other (premises.venue.actual move))).lines = _
  rw [Switchboard.step, if_pos actual]

theorem dial (looks : premises.Looks venue lines counted) (handle : Handle) (capacity : Nat)
    (room : String) (unknown : handle.client ∉ lines) (quiet : venue.node.loop.pending = [])
    (nowhere : venue.node.loop.hub.registry.roomOf? handle.client = none)
    (new : handle.queue ∉ venue.queues) :
    (premises.step (.board (.dial handle capacity room))).Looks
      { venue with
        queues := venue.queues.insert handle.queue (.ofCapacity capacity)
        loose := handle :: venue.loose }
      (lines.insert handle.client { connection := ⟨handle.client, handle.queue, room⟩ })
      counted := by
  obtain ⟨rfl, rfl, rfl⟩ := looks
  have possible : premises.board.unknown handle.client = true := by
    have quiet : premises.board.world.loop.pending = [] := quiet
    have nowhere : premises.board.world.loop.hub.registry.roomOf? handle.client = none := nowhere
    simp [Switchboard.unknown, unknown, quiet, nowhere]
  have free : handle.queue ∉ premises.board.world.queues := new
  let line : Line := { connection := ⟨handle.client, handle.queue, room⟩ }
  let world : World := { premises.board.world with
    queues := premises.board.world.queues.insert handle.queue (.ofCapacity capacity)
    loose := handle :: premises.board.world.loose }
  have stepped : premises.step (.board (.dial handle capacity room)) =
      { premises with board := { premises.board with world }.put handle.client line } := by
    simp [step, permits, operate, actual, Switchboard.step, possible, World.step, free, line, world]
  rw [stepped]
  exact ⟨rfl, rfl, rfl⟩

theorem frame (looks : premises.Looks venue lines counted) (found : lines[client]? = some line)
    (idle : line.pump = .idle) (now : Timestamp) (data : Bytes) :
    (premises.step (.board (.frame client now data))).Looks venue
      (lines.insert client
        { line with pump := line.pumpAfter (Session.react line.connection.room now data) })
      counted := by
  obtain ⟨rfl, rfl, rfl⟩ := looks
  rw [step_line rfl found rfl, Switchboard.lineStep, if_pos idle]
  exact ⟨rfl, rfl, rfl⟩

theorem part (looks : premises.Looks venue lines counted) (found : lines[client]? = some line)
    (joined : line.stage = .joined) (listed : client ∈ counted) :
    (premises.step (.board (.part client))).Looks venue
      (lines.insert client { line with stage := .leaving }) counted := by
  obtain ⟨rfl, rfl, rfl⟩ := looks
  have permitted : premises.permits (.part client) = true := decide_eq_true listed
  rw [step_line rfl found permitted, Switchboard.lineStep, if_pos joined]
  exact ⟨rfl, rfl, rfl⟩

/-- A request that was made is dealt with when the loop runs next. -/
theorem settled (looks : premises.Looks venue lines counted) (rests : venue.node.loop.Rests)
    (author : Option ClientId) (loose : EventLoop.carried command ⊆ venue.loose) (client : ClientId)
    (turned : Line) :
    let board := (premises.board.ask author command).2.put client turned
    (({ premises with board } : Premises).step (.board (.other (.advance none)))).Looks
      (venue.submit command) (lines.insert client turned) counted := by
  obtain ⟨rfl, rfl, rfl⟩ := looks
  intro board
  cases running : premises.venue.node.loop.running with
  | true =>
      have asks : premises.board.ask author command = _ :=
        Switchboard.ask_running (rests.ready running) author loose
      have same : ({ premises with board } : Premises).Looks (premises.venue.asked command)
          (premises.board.lines.insert client turned) premises.counted := by
        simp only [board, asks]
        exact ⟨rfl, rfl, rfl⟩
      rw [← Venue.advance_asked rests running]
      exact same.world _ rfl
  | false =>
      have asks : premises.board.ask author command = _ :=
        Switchboard.ask_ended rests.held running author loose
      have same : ({ premises with board } : Premises).Looks (premises.venue.submit command)
          (premises.board.lines.insert client turned) premises.counted := by
        simp only [board, asks, Venue.submit_ended running]
        exact ⟨rfl, rfl, rfl⟩
      have ended : (premises.venue.submit command).node.loop.running = false :=
        (Venue.rests_submit rests).2.trans running
      rw [← Venue.advance_ended ended]
      exact same.world _ rfl

/-- A loop that has nothing to do answers at once. -/
theorem asks (looks : premises.Looks venue lines counted) (rests : venue.node.loop.Rests)
    (author : Option ClientId) (loose : EventLoop.carried command ⊆ venue.loose) :
    premises.board.ask author command =
      (if venue.node.loop.running then .accepted else .refused,
        (premises.board.ask author command).2) := by
  obtain ⟨rfl, -, -⟩ := looks
  exact Prod.ext (Switchboard.ask_fst rests author loose) rfl

/-- A connection has its client join, and is over if the loop has ended. -/
theorem enter (looks : premises.Looks venue lines counted) (rests : venue.node.loop.Rests)
    (found : lines[client]? = some line) (joining : line.stage = .joining)
    (loose : ⟨client, line.connection.queue⟩ ∈ venue.loose) :
    ((premises.step (.board (.enter client))).step (.board (.other (.advance none)))).Looks
      (venue.submit (.join line.connection.room ⟨client, line.connection.queue⟩))
      (lines.insert client
        (if venue.node.loop.running then { line with stage := .joined, pump := .idle }
          else { line with stage := .over })) counted := by
  have carried : EventLoop.carried (.join line.connection.room ⟨client, line.connection.queue⟩) ⊆
      venue.loose := List.cons_subset.mpr ⟨loose, List.nil_subset _⟩
  have settled (turned : Line) := looks.settled rests none carried client turned
  have found : premises.board.lines[client]? = some line := looks.lines ▸ found
  rw [step_line rfl found rfl, Switchboard.lineStep, if_pos joining, looks.asks rests none carried]
  cases running : venue.node.loop.running with
  | true => exact settled _
  | false => exact settled _

theorem leave (looks : premises.Looks venue lines counted) (rests : venue.node.loop.Rests)
    (found : lines[client]? = some line) (leaving : line.stage = .leaving) :
    ((premises.step (.board (.leave client))).step (.board (.other (.advance none)))).Looks
      (venue.submit (.disconnect client)) (lines.insert client { line with stage := .over })
      counted := by
  have carried : EventLoop.carried (.disconnect client) ⊆ venue.loose := List.nil_subset _
  have settled (turned : Line) := looks.settled rests none carried client turned
  have found : premises.board.lines[client]? = some line := looks.lines ▸ found
  rw [step_line rfl found rfl, Switchboard.lineStep, if_pos leaving, looks.asks rests none carried]
  cases running : venue.node.loop.running with
  | true => exact settled _
  | false => exact settled _

theorem request (looks : premises.Looks venue lines counted) (rests : venue.node.loop.Rests)
    (running : venue.node.loop.running = true) (found : lines[client]? = some line) {room : String}
    (asking : line.pump = .asking command room) (nothing : EventLoop.carried command = []) :
    ((premises.step (.board (.request client))).step (.board (.other (.advance none)))).Looks
      (venue.submit command)
      (lines.insert client
        { line with connection := { line.connection with room }, pump := .idle }) counted := by
  have carried : EventLoop.carried command ⊆ venue.loose := nothing ▸ List.nil_subset _
  have settled (turned : Line) := looks.settled rests (some client) carried client turned
  have found : premises.board.lines[client]? = some line := looks.lines ▸ found
  rw [step_line rfl found rfl, Switchboard.lineStep, asking]
  dsimp only
  rw [looks.asks rests (some client) carried, running]
  exact settled _

theorem count (looks : premises.Looks venue lines counted) (found : lines[client]? = some line)
    (joined : line.stage = .joined) (new : client ∉ counted) :
    (premises.step (.count client)).Looks
      { venue with node :=
        { venue.node with metrics := venue.node.metrics.map Metrics.connectionOpened } }
      lines (counted.insert client) := by
  obtain ⟨rfl, rfl, rfl⟩ := looks
  have stage : premises.stage? client = some .joined := by
    rw [stage?, found, Option.map_some, joined]
  rw [step, if_pos ⟨stage, new⟩]
  exact ⟨rfl, rfl, rfl⟩

theorem discount (looks : premises.Looks venue lines counted) (found : lines[client]? = some line)
    (parted : line.stage = .over) (listed : client ∈ counted) :
    (premises.step (.discount client)).Looks
      { venue with node :=
        { venue.node with metrics := venue.node.metrics.map Metrics.connectionClosed } }
      lines (counted.erase client) := by
  obtain ⟨rfl, rfl, rfl⟩ := looks
  have stage : premises.stage? client = some .over := by
    rw [stage?, found, Option.map_some, parted]
  rw [step, if_pos ⟨stage, listed⟩]
  exact ⟨rfl, rfl, rfl⟩

theorem aside (looks : premises.Looks venue lines counted) {move : VenueMove}
    (quiet : (∃ change, move = .fanout change) ∨
      (∃ method path status time, move = .request method path status time) ∨
        ∃ status, move = .bridge status) :
    (premises.step (.aside move)).Looks (venue.step move).2 lines counted := by
  obtain ⟨rfl, rfl, rfl⟩ := looks
  rcases quiet with ⟨_, rfl⟩ | ⟨_, _, _, _, rfl⟩ | ⟨_, rfl⟩
  all_goals exact ⟨rfl, rfl, rfl⟩

end Looks
end Premises
end ChatRelay
