import ChatRelay.Proofs.Hub.Attendance
import ChatRelay.Proofs.Server.Departures

/-! # Connections that are counted

A switchboard with what is attached to its hub. A connection that has joined is counted as open, and
only then its tasks begin; when it has left it is counted off. One that is refused at the beginning is
counted neither way.
-/

namespace ChatRelay

structure Premises where
  board : Switchboard
  /-- What is attached to the hub of the switchboard. -/
  attached : Node
  /-- The clients whose connection was counted and not yet counted off. -/
  counted : Std.ExtTreeSet ClientId := ∅

inductive PremisesMove where
  /-- A step of the switchboard. What the fanout says to the loop is up to the fanout. -/
  | board (move : SwitchboardMove)
  /-- A connection is counted. -/
  | count (client : ClientId)
  /-- A connection is counted off. -/
  | discount (client : ClientId)
  /-- Something happens to what is attached, beside hub and connections. -/
  | aside (move : VenueMove)

/-- The client whose connection takes a step. -/
def PremisesMove.line? : PremisesMove → Option ClientId
  | .board move => move.line?
  | .count client | .discount client => some client
  | .aside _ => none

namespace Premises

def registry (premises : Premises) : Registry := premises.board.world.loop.hub.registry

/-- How far a connection is. -/
def stage? (premises : Premises) (client : ClientId) : Option Stage :=
  premises.board.lines[client]?.map Line.stage

/-- The hub of the switchboard with what is attached to it. -/
def venue (premises : Premises) : Venue :=
  { node := { premises.attached with loop := premises.board.world.loop }
    queues := premises.board.world.queues
    loose := premises.board.world.loose }

/-- Whether a step of the switchboard is possible. A connection has no task to lose before it is
    counted. -/
def permits (premises : Premises) : SwitchboardMove → Bool
  | .part client => client ∈ premises.counted
  | .other move => premises.board.allows move
  | _ => true

/-- Change the metrics, if they are kept. -/
def withMetrics (premises : Premises) (change : Metrics → Metrics) : Premises :=
  { premises with attached :=
      { premises.attached with metrics := premises.attached.metrics.map change } }

/-- A step of the switchboard with the answer of the fanout that is attached. -/
def actual (premises : Premises) : SwitchboardMove → SwitchboardMove
  | .other move => .other (premises.venue.actual move)
  | move => move

/-- A step of the switchboard that is possible. Only the loop has anything to tell. -/
def operate (premises : Premises) (move : SwitchboardMove) : Premises :=
  { premises with
    board := premises.board.step (premises.actual move)
    attached := match move with
      | .other move => (premises.venue.step (.world move)).2.node
      | _ => premises.attached }

/-- One step. A step that is not possible changes nothing. -/
def step (premises : Premises) : PremisesMove → Premises
  | .board move => if premises.permits move then premises.operate move else premises
  | .count client =>
      if premises.stage? client = some .joined ∧ client ∉ premises.counted then
        { premises.withMetrics Metrics.connectionOpened with
          counted := premises.counted.insert client }
      else premises
  | .discount client =>
      if premises.stage? client = some .over ∧ client ∈ premises.counted then
        { premises.withMetrics Metrics.connectionClosed with
          counted := premises.counted.erase client }
      else premises
  | .aside move =>
      match move with
      | .fanout _ | .request .. | .bridge _ =>
          { premises with attached := (premises.venue.step move).2.node }
      | .world _ | .opened | .closed => premises

/-- The premises after some steps. -/
def run (premises : Premises) (moves : List PremisesMove) : Premises := moves.foldl step premises

/-- A hub with the attachments of an instance, all of them new, and no connection. -/
def start (node : Node) (capacity : Nat) : Premises :=
  { board := .start capacity
    attached := { node with
      metrics := node.metrics.map fun _ => {}
      presence := node.presence.map fun _ => {} } }

variable {premises : Premises} {client : ClientId}

/-- What every step keeps is kept by a run. -/
theorem run_induction {motive : Premises → Prop}
    (step : ∀ premises move, motive premises → motive (premises.step move))
    (before : motive premises) (moves : List PremisesMove) : motive (premises.run moves) := by
  induction moves generalizing premises with
  | nil => exact before
  | cons move moves ih => exact ih (step premises move before)

theorem venue_eq {venue : Venue} (world : premises.board.world = venue.world)
    (attached : premises.attached = venue.node) : premises.venue = venue := by
  rw [Premises.venue, world, attached]
  rfl

/-- The hub with its attachments makes the step that the switchboard makes. -/
theorem venue_operate {step : WorldMove} (permitted : premises.permits (.other step) = true) :
    (premises.operate (.other step)).venue = (premises.venue.step (.world step)).2 := by
  refine venue_eq ?_ rfl
  have allowed : premises.board.allows (premises.venue.actual step) = true := by
    cases step <;> exact permitted
  rw [(premises.venue.world_step step).2]
  exact congrArg Switchboard.world (if_pos allowed)

/-- A step leaves the switchboard alone or is a step of it. -/
theorem board_step (premises : Premises) (move : PremisesMove) :
    (premises.step move).board = premises.board ∨
      ∃ step, (premises.step move).board = premises.board.step step := by
  cases move with
  | board move =>
      simp only [step]
      split
      · exact .inr ⟨_, rfl⟩
      · exact .inl rfl
  | count | discount =>
      simp only [step]
      split <;> exact .inl rfl
  | aside move => cases move <;> exact .inl rfl

end Premises

namespace Metrics

theorem connections_foldl_note (metrics : Metrics) (events : List Event) :
    (events.foldl note metrics).connections = metrics.connections := by
  induction events generalizing metrics with
  | nil => rfl
  | cons event events ih =>
      rw [List.foldl_cons, ih]
      cases event with
      | published room payload accepted => cases accepted <;> rfl
      | recorded | delivered | answered => rfl

end Metrics

/-- What the loop does is no matter of the gauge, and nothing is detached. -/
theorem Venue.step_attached (venue : Venue) (move : WorldMove) :
    let after := (venue.step (.world move)).2.node
    (∃ note : Metrics → Metrics, (∀ metrics, (note metrics).connections = metrics.connections) ∧
      after.metrics = venue.node.metrics.map note) ∧
      after.presence.isSome = venue.node.presence.isSome := by
  cases processed : venue.world.processing? (venue.actual move) with
  | none =>
      intro after
      have same : after = _ := node_idle processed
      rw [same]
      exact ⟨⟨id, fun _ => rfl, by simp⟩, rfl⟩
  | some command =>
      obtain ⟨fanout, rest, same, -, -⟩ := World.processing?_eq_some processed
      cases move with
      | advance answer =>
          intro after
          have heard : after = _ := node_processing answer processed
          rw [heard]
          simp only [Node.absorbStep, Node.metrics_foldl_absorb, Node.presence_foldl_absorb,
            Option.isSome_map, and_true]
          exact ⟨(·.noteStep _ _), fun metrics => metrics.connections_foldl_note _, rfl⟩
      | _ => cases same

namespace Premises

variable {node : Node} {premises : Premises} {client : ClientId}

/-- What holds between any two steps. -/
structure Sound (node : Node) (premises : Premises) : Prop where
  board : premises.board.Orderly
  counted : ∀ client ∈ premises.counted, premises.board.Past client
  metered : premises.attached.metrics.isSome = node.metrics.isSome
  gauge : ∀ metrics, premises.attached.metrics = some metrics →
    metrics.connections = premises.counted.size
  kept : premises.attached.presence.isSome = node.presence.isSome
  attended : premises.venue.Attended

namespace Sound

theorem start (node : Node) (capacity : Nat) : Sound node (.start node capacity) where
  board := .start capacity
  counted := by simp [Premises.start]
  metered := by simp [Premises.start]
  gauge metrics found := by
    obtain ⟨-, -, rfl⟩ := Option.map_eq_some_iff.mp found
    rfl
  kept := by simp [Premises.start]
  attended _ ledger found := by
    obtain ⟨-, -, rfl⟩ := Option.map_eq_some_iff.mp found
    exact ⟨.empty, fun room => by simp [PresenceLedger.total, PresenceLedger.count?, venue,
      Premises.start, Switchboard.start, World.start, EventLoop.ofCapacity, Registry.members]⟩

/-- A step that is none of the switchboard. -/
theorem beside (sound : Sound node premises) {attached : Node}
    {counted : Std.ExtTreeSet ClientId} (note : Metrics → Metrics)
    (metrics : attached.metrics = premises.attached.metrics.map note)
    (presence : attached.presence = premises.attached.presence)
    (joined : ∀ client ∈ counted, client ∈ premises.counted ∨
      premises.stage? client = some .joined)
    (gauge : ∀ metrics : Metrics, metrics.connections = premises.counted.size →
      (note metrics).connections = counted.size) :
    Sound node { premises with attached, counted } := by
  constructor
  · exact sound.board
  · intro client listed
    rcases joined client listed with before | joined
    · exact sound.counted client before
    · obtain ⟨line, found, stage⟩ := Option.map_eq_some_iff.mp joined
      exact ⟨line, found, fun joining => nomatch stage.symm.trans joining⟩
  · rw [metrics, Option.isSome_map, sound.metered]
  · intro later found
    rw [metrics, Option.map_eq_some_iff] at found
    obtain ⟨before, found, rfl⟩ := found
    exact gauge before (sound.gauge before found)
  · rw [presence, sound.kept]
  · intro running ledger found
    exact sound.attended running ledger (presence.symm.trans found)

/-- A step of the switchboard. -/
theorem operate (sound : Sound node premises) {move : SwitchboardMove}
    (permitted : premises.permits move = true) : Sound node (premises.operate move) := by
  have board := sound.board.step (premises.actual move)
  have counted : ∀ client ∈ premises.counted, (premises.operate move).board.Past client :=
    fun client listed => (sound.counted client listed).turn (premises.board.turn _)
  by_cases other : ∃ step, move = .other step
  · obtain ⟨step, rfl⟩ := other
    obtain ⟨roster, world⟩ := sound.board.sound.world
    obtain ⟨⟨note, aloof, metrics⟩, presence⟩ := premises.venue.step_attached step
    refine ⟨board, counted, ?_, ?_, ?_, ?_⟩
    · rw [Premises.operate, metrics, Option.isSome_map]
      exact sound.metered
    · intro later found
      rw [Premises.operate, metrics, Option.map_eq_some_iff] at found
      obtain ⟨before, found, rfl⟩ := found
      rw [aloof]
      exact sound.gauge before found
    · rw [Premises.operate, presence]
      exact sound.kept
    · rw [venue_operate permitted]
      exact sound.attended.step world step
  · have apart (step : WorldMove) : move ≠ .other step := fun same => other ⟨step, same⟩
    have same : premises.actual move = move := by
      cases move with
      | other step => exact absurd rfl (apart step)
      | _ => rfl
    have attached : (premises.operate move).attached = premises.attached := by
      cases move with
      | other step => exact absurd rfl (apart step)
      | _ => rfl
    obtain ⟨hub, running⟩ := (premises.board.turn move).hub apart
    refine ⟨board, counted, ?_, ?_, ?_, ?_⟩
    · rw [attached, sound.metered]
    · rw [attached]
      exact sound.gauge
    · rw [attached, sound.kept]
    · intro runs ledger found
      simp only [venue, Premises.operate, same] at runs found ⊢
      rw [hub]
      exact sound.attended (running.symm.trans runs) ledger found

theorem step (sound : Sound node premises) (move : PremisesMove) :
    Sound node (premises.step move) := by
  cases move with
  | board move =>
      simp only [Premises.step]
      split
      · next permitted => exact sound.operate permitted
      · exact sound
  | count client =>
      simp only [Premises.step]
      split
      · next possible =>
          obtain ⟨joined, uncounted⟩ := possible
          refine sound.beside _ rfl rfl (fun other listed => ?_) fun metrics gauge => ?_
          · rcases Std.ExtTreeSet.mem_insert.mp listed with same | before
            · rw [← Std.LawfulEqCmp.compare_eq_iff_eq.mp same]
              exact .inr joined
            · exact .inl before
          · rw [Metrics.connectionOpened, gauge, Std.ExtTreeSet.size_insert]
            simp [uncounted]
      · exact sound
  | discount client =>
      simp only [Premises.step]
      split
      · next possible =>
          obtain ⟨-, counted⟩ := possible
          refine sound.beside _ rfl rfl (fun other listed => ?_) fun metrics gauge => ?_
          · exact .inl (Std.ExtTreeSet.mem_erase.mp listed).2
          · have some : premises.counted.size ≠ 0 := fun zero => by
              rw [Std.ExtTreeSet.eq_empty_iff_size_eq_zero.mpr zero] at counted
              exact Std.ExtTreeSet.not_mem_empty counted
            rw [Metrics.connectionClosed, gauge, Std.ExtTreeSet.size_erase]
            simp only [Std.ExtTreeSet.contains_iff_mem, counted, if_true]
            omega
      · exact sound
  | aside move =>
      simp only [Premises.step]
      cases move with
      | fanout change =>
          exact sound.beside id (by simp [venue, Venue.step]) rfl (fun _ => .inl)
            fun _ gauge => gauge
      | request => exact sound.beside _ rfl rfl (fun _ => .inl) fun _ gauge => gauge
      | bridge => exact sound.beside _ rfl rfl (fun _ => .inl) fun _ gauge => gauge
      | world | opened | closed => exact sound

theorem run (sound : Sound node premises) (moves : List PremisesMove) :
    Sound node (premises.run moves) :=
  run_induction (motive := Sound node) (fun _ move sound => sound.step move) sound moves

end Sound

/-- A client that is gone stays so. -/
theorem Sound.gone (sound : Sound node premises)
    (gone : premises.board.Gone client) (move : PremisesMove) :
    (premises.step move).board.Gone client := by
  rcases premises.board_step move with same | ⟨step, stepped⟩
  · rwa [same]
  · rw [stepped]
    exact gone.turn sound.board.sound (premises.board.turn step)

theorem Sound.gone_run (sound : Sound node premises)
    (gone : premises.board.Gone client) (moves : List PremisesMove) :
    (premises.run moves).board.Gone client := by
  have keeps (premises : Premises) (move : PremisesMove)
      (kept : Sound node premises ∧ premises.board.Gone client) :
      Sound node (premises.step move) ∧ (premises.step move).board.Gone client :=
    ⟨kept.1.step move, kept.1.gone kept.2 move⟩
  exact (run_induction keeps ⟨sound, gone⟩ moves).2

/-- The connection of a client was refused. -/
structure Refused (premises : Premises) (client : ClientId) : Prop where
  line : ∃ line, premises.board.lines[client]? = some line ∧ line.stage = .over ∧ line.pump = .off
  uncounted : client ∉ premises.counted

namespace Refused

theorem stage (refused : premises.Refused client) : premises.stage? client = some .over := by
  obtain ⟨line, found, parted, -⟩ := refused.line
  rw [stage?, found, Option.map_some, parted]

/-- It takes no step. -/
theorem still (refused : premises.Refused client) {move : PremisesMove}
    (own : move.line? = some client) : premises.step move = premises := by
  obtain ⟨line, found, parted, off⟩ := refused.line
  cases move with
  | board move =>
      have same := Switchboard.step_ended found parted off own
      simp only [step, operate]
      split
      · cases move with
        | other => cases own
        | _ => simp only [actual, same]
      · rfl
  | count =>
      cases own
      simp [step, refused.stage]
  | discount =>
      cases own
      simp [step, refused.uncounted]
  | aside => cases own

theorem step (refused : premises.Refused client) (move : PremisesMove) :
    (premises.step move).Refused client := by
  obtain ⟨line, found, parted, off⟩ := refused.line
  have uncounted := refused.uncounted
  constructor
  · rcases premises.board_step move with same | ⟨step, stepped⟩
    · exact ⟨line, by rw [same, found], parted, off⟩
    · rw [stepped]
      exact ⟨line, (premises.board.turn step).ended found parted off, parted, off⟩
  · cases move with
    | board move =>
        simp only [Premises.step]
        split <;> exact uncounted
    | count other =>
        simp only [Premises.step]
        split
        · next possible =>
            intro listed
            rcases Std.ExtTreeSet.mem_insert.mp listed with same | before
            · cases Std.LawfulEqCmp.compare_eq_iff_eq.mp same
              cases refused.stage.symm.trans possible.1
            · exact uncounted before
        · exact uncounted
    | discount other =>
        simp only [Premises.step]
        split
        · exact fun listed => uncounted (Std.ExtTreeSet.mem_erase.mp listed).2
        · exact uncounted
    | aside move => cases move <;> exact uncounted

theorem run (refused : premises.Refused client) (moves : List PremisesMove) :
    (premises.run moves).Refused client :=
  run_induction (motive := (·.Refused client)) (fun _ move refused => refused.step move) refused moves

end Refused

/-- A connection that is refused leaves the hub, what is attached to it and the count as they are. -/
theorem Sound.refused (sound : Sound node premises) (joining : premises.stage? client = some .joining)
    (refused : (premises.step (.board (.enter client))).stage? client = some .over) :
    let next := premises.step (.board (.enter client))
    next.board.world.loop = premises.board.world.loop ∧ next.attached = premises.attached ∧
      next.counted = premises.counted ∧ next.Refused client ∧ next.board.Gone client := by
  obtain ⟨line, found, stage⟩ := Option.map_eq_some_iff.mp joining
  obtain ⟨off, absent⟩ := (sound.board.lines client line found).begins stage
  have uncounted : client ∉ premises.counted := by
    intro counted
    obtain ⟨line', found', past⟩ := sound.counted client counted
    cases found.symm.trans found'
    exact past stage
  have board : (premises.step (.board (.enter client))).board = premises.board.lineStep client line
      (.enter client) := by
    simp [Premises.step, permits, Premises.operate, actual, Switchboard.step,
      SwitchboardMove.line?, found]
  simp only [stage?, board, Switchboard.lineStep, if_pos stage] at refused
  intro next
  have after : next.board = _ := board
  simp only [Switchboard.lineStep, if_pos stage] at after
  rcases premises.board.ask_cases none (.join line.connection.room ⟨client, line.connection.queue⟩)
    with waits | ⟨-, accepts | refuses⟩
  · rw [waits] at refused
    simp [found, stage] at refused
  · rw [accepts] at refused
    simp [Switchboard.put] at refused
  · rw [refuses] at after
    have there : next.board.lines[client]? = some { line with stage := .over } := by
      rw [after]
      simp [Switchboard.put]
    refine ⟨by rw [after]; rfl, rfl, rfl, ⟨⟨_, there, rfl, off⟩, uncounted⟩, ?_, _, there, ?_⟩
    · rw [after]
      exact absent
    · intro joining
      cases joining

end Premises

/-- A client is in no room. -/
def Registry.Lacks (registry : Registry) (client : ClientId) : Prop :=
  registry.roomOf? client = none ∧ ∀ room, registry.handleIn? room client = none

theorem Registry.Mirrors.lacks {registry : Registry} {roster : Roster}
    (mirrors : registry.Mirrors roster) {client : ClientId}
    (nowhere : registry.roomOf? client = none) : registry.Lacks client := by
  refine ⟨nowhere, fun room => Option.eq_none_iff_forall_ne_some.mpr fun handle kept => ?_⟩
  have index : registry.roomOf? client = roster.roomOf? client := mirrors.index client
  have placed := Roster.roomOf?_eq_some_iff.mpr ⟨handle, (mirrors.stored room client handle).mp kept⟩
  cases (index.symm.trans nowhere).symm.trans placed

namespace Premises

variable {node : Node} {premises : Premises} {client : ClientId}

/-- The number of members of a room that are not the clients of connections. -/
def strangers (premises : Premises) (room : String) : Nat :=
  let members := (premises.registry.rooms[room]?).getD ∅
  (members.keys.filter (· ∉ premises.board.lines)).length

theorem strangers_eq (nobody : ∀ client ∈ premises.board.lines, premises.registry.Lacks client)
    (room : String) : premises.strangers room = premises.registry.members room := by
  rw [strangers, Registry.members]
  cases found : premises.registry.rooms[room]? with
  | none => rfl
  | some members =>
      have all : members.keys.filter (· ∉ premises.board.lines) = members.keys := by
        refine List.filter_eq_self.mpr fun client member => decide_eq_true fun known => ?_
        have absent := (nobody client known).2 room
        rw [Registry.handleIn?, found, Option.bind_some] at absent
        simp [Std.ExtTreeMap.mem_iff_isSome_getElem?, absent] at member
      simp only [Option.getD_some, all, Std.ExtTreeMap.length_keys]

theorem Sound.lacks (sound : Sound node premises) (gone : premises.board.Gone client) :
    premises.registry.Lacks client := by
  obtain ⟨roster, world⟩ := sound.board.sound.world
  exact world.mirrors.lacks gone.absent.nowhere

/-- The client of a connection is gone when the hub has processed its disconnect. -/
theorem Sound.disconnected (sound : Sound node premises) (known : client ∈ premises.board.lines)
    {answer : Option Bool} (processed :
      premises.board.world.processing? (.advance answer) = some (.disconnect client)) :
    (premises.step (.board (.other (.advance answer)))).board.Gone client := by
  obtain ⟨roster, world⟩ := sound.board.sound.world
  obtain ⟨line, found⟩ :=
    Option.isSome_iff_exists.mp (Std.ExtTreeMap.mem_iff_isSome_getElem?.mp known)
  have orderly := sound.board.lines client line found
  obtain ⟨fanout, rest, -, -, next⟩ := World.processing?_eq_some processed
  have parted := orderly.leaves (by rw [next]; exact List.mem_cons_self)
  have past : premises.board.Past client := ⟨line, found, by rw [parted]; exact nofun⟩
  change (premises.board.step (.other (.advance premises.venue.node.fanout))).Gone client
  exact ⟨orderly.disconnected world processed, past.turn (premises.board.turn _)⟩

/-- Nothing is left of connections but their lines. -/
structure Deserted (premises : Premises) : Prop where
  nobody : ∀ client ∈ premises.board.lines, premises.registry.Lacks client
  gauge : ∀ metrics, premises.attached.metrics = some metrics → metrics.connections = 0
  /-- The ledger counts the members that are not the clients of connections, and nobody else. -/
  count : ∀ ledger, premises.attached.presence = some ledger → ∀ room,
    ledger.count? room =
      if 0 < premises.strangers room then some (premises.strangers room : Int) else none
  active : ∀ ledger, premises.attached.presence = some ledger → ∀ room (members : Int),
    ⟨room, members⟩ ∈ ledger.active ↔
      0 < premises.strangers room ∧ members = premises.strangers room

theorem Sound.deserted (sound : Sound node premises)
    (running : premises.board.world.loop.running = true)
    (quiet : premises.board.world.loop.pending = [])
    (finished : ∀ client ∈ premises.board.lines,
      premises.stage? client = some .over ∧ client ∉ premises.counted) : premises.Deserted := by
  obtain ⟨roster, world⟩ := sound.board.sound.world
  have nobody : ∀ client ∈ premises.board.lines, premises.registry.Lacks client := by
    intro client known
    obtain ⟨line, found, parted⟩ := Option.map_eq_some_iff.mp (finished client known).1
    rcases (sound.board.lines client line found).parted parted running with listed | absent
    · simp [quiet] at listed
    · exact world.mirrors.lacks absent.nowhere
  have uncounted : premises.counted = ∅ :=
    Std.ExtTreeSet.eq_empty_iff_forall_not_mem.mpr fun client counted =>
      (finished client (sound.counted client counted).known).2 counted
  have strangers := strangers_eq nobody
  constructor
  · exact nobody
  · intro metrics found
    rw [sound.gauge metrics found, uncounted]
    rfl
  · intro ledger found room
    obtain ⟨exact, total⟩ := sound.attended running ledger found
    simp only [exact.count?_eq, total, strangers, Int.natCast_pos]
    rfl
  · intro ledger found room members
    obtain ⟨exact, total⟩ := sound.attended running ledger found
    simp only [exact.mem_active, total, strangers, Int.natCast_pos]
    rfl

/-- Connections leave nothing behind. -/
structure Tidy (node : Node) (premises : Premises) : Prop where
  /-- A client is never registered again once the hub has processed its disconnect. -/
  gone : ∀ client ∈ premises.board.lines, ∀ answer,
    premises.board.world.processing? (.advance answer) = some (.disconnect client) →
    ∀ later, ((premises.step (.board (.other (.advance answer)))).run later).registry.Lacks client
  /-- A connection whose client is refused changes nothing, then or later. -/
  refused : ∀ client, premises.stage? client = some .joining →
    let next := premises.step (.board (.enter client))
    next.stage? client = some .over →
    next.registry = premises.registry ∧ next.attached = premises.attached ∧
    ∀ later, let last := next.run later
      last.registry.Lacks client ∧ client ∉ last.counted ∧
      ∀ move : PremisesMove, move.line? = some client → last.step move = last
  metered : premises.attached.metrics.isSome = node.metrics.isSome
  /-- The gauge shows the connections that were counted and not yet counted off. -/
  gauge : ∀ metrics, premises.attached.metrics = some metrics →
    metrics.connections = premises.counted.size
  kept : premises.attached.presence.isSome = node.presence.isSome
  /-- A loop that runs has been running all the time. -/
  deserted : premises.board.world.loop.running = true → premises.board.world.loop.pending = [] →
    (∀ client ∈ premises.board.lines,
      premises.stage? client = some .over ∧ client ∉ premises.counted) → premises.Deserted

theorem Sound.tidy (sound : Sound node premises) : Tidy node premises := by
  constructor
  · intro client known answer processed later
    have gone := sound.disconnected known processed
    exact ((sound.step _).run later).lacks ((sound.step _).gone_run gone later)
  · intro client joining next refused
    obtain ⟨loop, attached, -, rejected, gone⟩ := sound.refused joining refused
    refine ⟨by rw [registry, loop, registry], attached, fun later => ?_⟩
    have still := rejected.run later
    refine ⟨?_, still.uncounted, fun move => still.still⟩
    exact ((sound.step _).run later).lacks ((sound.step _).gone_run gone later)
  · exact sound.metered
  · exact sound.gauge
  · exact sound.kept
  · exact sound.deserted

/-- Whatever connections do and however their tasks end, none of their clients comes back after its
    disconnect, the gauge shows how many of them are open, and when all are over nothing is left of
    them in the registry, in the gauge or in the ledger. -/
theorem no_ghosts_and_no_drift (node : Node) (capacity : Nat) (moves : List PremisesMove) :
    Tidy node ((start node capacity).run moves) :=
  ((Sound.start node capacity).run moves).tidy

/-- A pump makes its request after its connection has left. -/
example :
    let frame := Utf8.ofString "\x7b\"type\":\"join\",\"room\":\"b\"\x7d"
    let node : Node := { Node.start .zero {} with metrics := some {}, presence := some {} }
    let moves : List PremisesMove :=
      [.board (.dial ⟨1, 1⟩ 4 "a"), .board (.enter 1), .count 1, .board (.other (.advance none)),
        .board (.frame 1 ⟨0, 0, 0⟩ frame), .board (.part 1), .board (.leave 1), .board (.request 1),
        .board (.other (.advance none)), .board (.other (.advance none)), .discount 1]
    let premises := (start node 8).run moves
    premises.registry.roomOf? 1 = none ∧
      premises.attached.metrics.map Metrics.connections = some 0 ∧
      premises.attached.presence.map PresenceLedger.active = some [] := by
  decide +kernel

end Premises
end ChatRelay
