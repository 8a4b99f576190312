import ChatRelay.Proofs.Hub.Turns
import ChatRelay.Proofs.Hub.Venue

/-! # The counters of a hub are exact

Over every run of an instance, whatever its clients, its fanout and others do: each counter of the
hub is the number of what it counts, as it is seen from outside, and the metrics say the same.
-/

namespace ChatRelay

namespace World

/-- Number of local broadcasts that a step processes. -/
def localBroadcasts (world : World) (move : WorldMove) : Nat :=
  match world.processing? move with
  | some (.broadcast envelope) => if envelope.isLocal then 1 else 0
  | _ => 0

/-- Number of broadcasts to a room that a step processes. -/
def broadcastsTo (room : String) (world : World) (move : WorldMove) : Nat :=
  match world.processing? move with
  | some (.broadcast envelope) => if envelope.room = room then 1 else 0
  | _ => 0

namespace Sound

/-- What a request adds to the counters is what is seen of it. -/
theorem stats_processing {world : World} {roster : Roster} (sound : world.Sound roster)
    {fanout : Option Bool} {command : Command}
    (processed : world.processing? (.advance fanout) = some command) :
    let stats := world.loop.hub.stats
    let stats' := (world.loop.hub.process fanout command world.queues).hub.stats
    let here := world.localBroadcasts (.advance fanout)
    stats'.broadcasts + stats.remoteBroadcasts =
        stats.broadcasts + stats'.remoteBroadcasts + here ∧
      stats'.published + stats'.unpublished =
        stats.published + stats.unpublished + (if fanout.isSome then here else 0) ∧
      stats'.deliveries = stats.deliveries + world.appends (.advance fanout) ∧
      stats'.evictions = stats.evictions + (world.evicted (.advance fanout)).length := by
  simp only [Hub.stats_process]
  cases command with
  | broadcast envelope =>
      simp only [sound.appends_broadcast processed, sound.length_evicted processed,
        localBroadcasts, processed]
      cases envelope.isLocal with
      | false => cases fanout <;> simp <;> omega
      | true => rcases fanout with - | - | - <;> simp <;> omega
  | _ =>
      have silent : world.appends (.advance fanout) = 0 :=
        sound.appends_other fun envelope broadcast => by cases processed.symm.trans broadcast
      simp [silent, evicted, localBroadcasts, processed]

end Sound
end World

namespace Venue

/-- What is observed in every step of a log, added up. -/
def tally (observe : World → WorldMove → Nat) (log : List (World × WorldMove)) : Nat :=
  (log.map fun entry => observe entry.1 entry.2).sum

@[simp] theorem tally_nil (observe : World → WorldMove → Nat) : tally observe [] = 0 := rfl

@[simp] theorem tally_snoc (observe : World → WorldMove → Nat) (log : List (World × WorldMove))
    (world : World) (move : WorldMove) :
    tally observe (log ++ [(world, move)]) = tally observe log + observe world move := by
  simp [tally]

/-- Steps that process nothing. -/
def Idle (marks : List (World × WorldMove)) : Prop :=
  ∀ mark ∈ marks, ∃ roster, mark.1.Sound roster ∧ mark.1.processing? mark.2 = none

theorem tally_idle (observe : World → WorldMove → Nat) {marks : List (World × WorldMove)}
    (idle : Idle marks) (log : List (World × WorldMove))
    (silent : ∀ {world roster move}, World.Sound world roster → world.processing? move = none →
      observe world move = 0) : tally observe (log ++ marks) = tally observe log := by
  have none : tally observe marks = 0 := by
    refine List.sum_eq_zero fun count listed => ?_
    obtain ⟨mark, member, rfl⟩ := List.mem_map.mp listed
    obtain ⟨roster, sound, idle⟩ := idle mark member
    exact silent sound idle
  rw [tally, List.map_append, List.sum_append]
  exact congrArg _ none

/-- What the hub and the metrics have counted is what was seen since the instance was started. -/
structure Exact (node : Node) (log : List (World × WorldMove)) (venue : Venue) : Prop where
  broadcasts : venue.node.loop.hub.stats.broadcasts =
    venue.node.loop.hub.stats.remoteBroadcasts + tally World.localBroadcasts log
  published : venue.node.loop.hub.stats.published + venue.node.loop.hub.stats.unpublished =
    if node.outbox.isSome then tally World.localBroadcasts log else 0
  deliveries : venue.node.loop.hub.stats.deliveries = tally World.appends log
  evictions : venue.node.loop.hub.stats.evictions =
    tally (fun world move => (world.evicted move).length) log
  clients : venue.node.loop.hub.stats.clients +
      tally (fun world move => (world.parted move).length) log +
      tally (fun world move => (world.evicted move).length) log +
      tally (fun world move => (world.dropped move).length) log =
    tally (fun world move => (world.joined move).length) log
  /-- While the loop runs, the clients are those in all rooms. -/
  snapshot : venue.node.loop.running = true →
    let snapshot := venue.node.loop.hub.registry.snapshot
    venue.node.loop.hub.stats.clients = (snapshot.rooms.map Prod.snd).sum ∧
      venue.node.loop.hub.stats.rooms = (snapshot.rooms.filter fun room => 0 < room.2).length
  metered : venue.node.metrics.isSome = node.metrics.isSome
  metrics : ∀ metrics, venue.node.metrics = some metrics →
    metrics.Follows venue.node.loop.hub.stats ∧
      ∀ room, metrics.broadcasts.value room = tally (World.broadcastsTo room) log

/-- What every step keeps. -/
structure Sound (node : Node) (log : List (World × WorldMove)) (venue : Venue) : Prop where
  world : ∃ roster, venue.world.Sound roster
  counted : venue.node.loop.running = true → venue.node.loop.hub.Counted
  attached : venue.node.outbox.isSome = node.outbox.isSome
  exact : Exact node log venue

variable {node : Node} {log : List (World × WorldMove)} {venue : Venue}

/-- What is counted in a step that processes a request. -/
theorem node_step_processing (answer : Option Bool) {command : Command}
    (processed : venue.world.processing? (.advance venue.node.fanout) = some command) :
    let step := venue.node.loop.hub.process venue.node.fanout command venue.queues
    let next := (venue.step (.world (.advance answer))).2.node
    next.loop.hub = step.hub ∧ next.outbox.isSome = venue.node.outbox.isSome ∧
      next.metrics = venue.node.metrics.map
        (·.noteStep step.events step.hub.registry.roomCount) := by
  simp only [node_processing answer processed]
  simp [Node.absorbStep]

namespace Sound

theorem start (node : Node) (capacity : Nat) : Sound node [] (.start node capacity) where
  world := ⟨∅, .start capacity⟩
  counted _ := ⟨rfl, rfl⟩
  attached := rfl
  exact := by
    constructor
    case metered => simp [Venue.start]
    case metrics =>
      intro metrics found
      obtain ⟨-, -, rfl⟩ := Option.map_eq_some_iff.mp found
      exact ⟨Metrics.follows_start, fun room => rfl⟩
    case snapshot => exact fun _ => ⟨rfl, rfl⟩
    all_goals simp [Venue.start, EventLoop.ofCapacity]

/-- A request is processed. -/
theorem process (sound : Sound node log venue) {answer : Option Bool} {command : Command}
    (processed : venue.world.processing? (.advance venue.node.fanout) = some command) :
    Sound node (log ++ [(venue.world, .advance venue.node.fanout)])
      (venue.step (.world (.advance answer))).2 := by
  obtain ⟨⟨roster, world⟩, counted, attached, exact⟩ := sound
  obtain ⟨_, _, -, running, -⟩ := World.processing?_eq_some processed
  obtain ⟨hub, attached', metrics⟩ := node_step_processing answer processed
  have stepped : (venue.step (.world (.advance answer))).2.world =
      venue.world.step (.advance venue.node.fanout) := (venue.world_step (.advance answer)).2
  have world' := world.step_processing processed
  have people := world.length_registered processed
  rw [← stepped] at world' people
  generalize (venue.step (.world (.advance answer))).2 = next at *
  have counted' : next.node.loop.hub.Counted := by
    rw [hub]
    exact Hub.counted_process ..
  have registered (venue : Venue) (counted : venue.node.loop.hub.Counted) :
      venue.world.registered.length = venue.node.loop.hub.stats.clients := by
    rw [counted.2, World.registered, Std.ExtTreeMap.length_keys]
    rfl
  rw [registered venue (counted running), registered next counted'] at people
  have added := world.stats_processing processed
  simp only [world_loop, world_queues, ← hub] at added
  obtain ⟨broadcasts, published, deliveries, evictions⟩ := added
  have offered : venue.node.fanout.isSome = node.outbox.isSome := by
    rw [Node.fanout, Option.isSome_map, attached]
  refine ⟨⟨_, world'⟩, fun _ => counted', attached'.trans attached, ?_⟩
  constructor
  case broadcasts =>
    have before := exact.broadcasts
    rw [tally_snoc]
    omega
  case published =>
    have before := exact.published
    rw [tally_snoc, published, before, offered]
    split <;> rfl
  case deliveries => rw [tally_snoc, deliveries, exact.deliveries]
  case evictions => rw [tally_snoc, evictions, exact.evictions]
  case clients =>
    have before := exact.clients
    simp only [tally_snoc]
    omega
  case snapshot =>
    intro _
    obtain ⟨sizes, rooms⟩ := world'.mirrors.snapshot_exact world'.unshared
    exact ⟨counted'.2.trans sizes.symm, counted'.1.trans rooms.symm⟩
  case metered => rw [metrics, Option.isSome_map, exact.metered]
  case metrics =>
    intro metrics' found
    rw [metrics, Option.map_eq_some_iff] at found
    obtain ⟨before, found, rfl⟩ := found
    obtain ⟨follows, rooms⟩ := exact.metrics before found
    rw [hub]
    refine ⟨follows.noteStep .., fun room => ?_⟩
    rw [Metrics.value_noteStep follows.single, rooms, tally_snoc, World.broadcastsTo, processed]
    cases command <;> rfl

/-- Nothing that counts happens. -/
theorem idle (sound : Sound node log venue) {next : Venue} {marks : List (World × WorldMove)}
    (idle : Idle marks) (world : ∃ roster, next.world.Sound roster)
    (stats : next.node.loop.hub.stats = venue.node.loop.hub.stats)
    (running : next.node.loop.running = true →
      venue.node.loop.running = true ∧ next.node.loop.hub = venue.node.loop.hub)
    (attached : next.node.outbox.isSome = venue.node.outbox.isSome)
    (metrics : ∃ note : Metrics → Metrics, next.node.metrics = venue.node.metrics.map note ∧
      ∀ metrics stats, metrics.Follows stats → (note metrics).Follows stats ∧
        (note metrics).broadcasts = metrics.broadcasts) :
    Sound node (log ++ marks) next := by
  obtain ⟨-, counted, attached', exact⟩ := sound
  obtain ⟨note, noted, follows⟩ := metrics
  have locals := tally_idle World.localBroadcasts idle log fun _ idle => by
    rw [World.localBroadcasts, idle]
  have appends := tally_idle World.appends idle log fun sound idle =>
    sound.appends_other fun _ broadcast => nomatch idle.symm.trans broadcast
  have nobody (kind : World → WorldMove → List ClientId) (none : ∀ {world move},
      world.processing? move = none → kind world move = []) :
      tally (fun world move => (kind world move).length) (log ++ marks) =
        tally (fun world move => (kind world move).length) log :=
    tally_idle _ idle log fun _ idle => by rw [none idle]; rfl
  have joined := nobody World.joined fun idle => by rw [World.joined, idle]
  have parted := nobody World.parted fun idle => by rw [World.parted, idle]
  have evicted := nobody World.evicted fun idle => by rw [World.evicted, idle]
  have dropped := nobody World.dropped fun idle => by rw [World.dropped, idle]
  refine ⟨world, fun runs => ?_, attached.trans attached', ?_⟩
  · obtain ⟨before, same⟩ := running runs
    rw [same]
    exact counted before
  constructor
  case broadcasts => rw [stats, locals, exact.broadcasts]
  case published => rw [stats, locals, exact.published]
  case deliveries => rw [stats, appends, exact.deliveries]
  case evictions => rw [stats, evicted, exact.evictions]
  case clients => rw [stats, parted, evicted, dropped, joined, exact.clients]
  case snapshot =>
    intro runs
    obtain ⟨before, same⟩ := running runs
    rw [same]
    exact exact.snapshot before
  case metered => rw [noted, Option.isSome_map, exact.metered]
  case metrics =>
    intro metrics found
    rw [noted, Option.map_eq_some_iff] at found
    obtain ⟨before, found, rfl⟩ := found
    obtain ⟨same, rooms⟩ := exact.metrics before found
    obtain ⟨same, labels⟩ := follows before _ same
    refine ⟨stats ▸ same, fun room => ?_⟩
    rw [labels, rooms, tally_idle _ idle log fun _ idle => by rw [World.broadcastsTo, idle]]

theorem step (sound : Sound node log venue) (move : VenueMove) :
    Sound node (log ++ (venue.step move).1) (venue.step move).2 := by
  cases move with
  | world move =>
      obtain ⟨roster, world⟩ := sound.world
      obtain ⟨marks, stepped⟩ := venue.world_step move
      cases processed : venue.world.processing? (venue.actual move) with
      | some command =>
          obtain ⟨fanout, rest, same, -, -⟩ := World.processing?_eq_some processed
          cases move with
          | advance answer => exact sound.process processed
          | _ => exact nomatch same
      | none =>
          obtain ⟨stats, running⟩ := World.hub_step_idle processed
          obtain ⟨roster', world', -⟩ := world.step (venue.actual move)
          have node := node_idle processed
          rw [← stepped] at stats running world'
          rw [marks]
          refine sound.idle ?_ ⟨roster', world'⟩ stats running (by rw [node])
            ⟨id, by rw [node, Option.map_id]; rfl, fun _ _ follows => ⟨follows, rfl⟩⟩
          intro mark listed
          cases List.mem_singleton.mp listed
          exact ⟨roster, world, processed⟩
  | fanout change =>
      exact sound.idle nofun sound.world rfl (fun running => ⟨running, rfl⟩) (Option.isSome_map ..)
        ⟨id, by rw [Option.map_id]; rfl, fun _ _ follows => ⟨follows, rfl⟩⟩
  | request | opened | closed | bridge =>
      refine sound.idle nofun sound.world rfl (fun running => ⟨running, rfl⟩) rfl
        ⟨_, rfl, fun _ _ follows => ⟨?_, rfl⟩⟩
      exact { follows with }

end Sound

/-- Every counter of a hub, and every metric of it, is what was seen since the instance was
    started. -/
theorem hub_accounting_is_exact (node : Node) (capacity : Nat) (moves : List VenueMove) :
    let (log, venue) := play step (start node capacity) moves
    Exact node log venue :=
  (play_induction (motive := fun log venue => Sound node log venue)
    (fun _ _ move sound => sound.step move) (.start node capacity) moves).exact

end Venue
end ChatRelay
