import ChatRelay.Proofs.Hub.Broadcasts
import ChatRelay.Proofs.Hub.Venue

/-! # Service here does not depend on what is attached

A hub may have a fanout, a presence store and metrics, and the fanout may accept or refuse whatever
it likes. None of this can be told from what the clients of the hub see: its registry, its queues,
its answers and its counters are those of a hub with nothing attached. Only the two counters of what
was handed to the fanout are left out.
-/

namespace ChatRelay

/-- Whether a report is about something else than the fanout. -/
def Event.isInternal : Event → Bool
  | .published .. => false
  | _ => true

def HubStats.withoutFanout (stats : HubStats) : HubStats :=
  { stats with published := 0, unpublished := 0 }

namespace Hub

/-- The hub without the counters that tell of the fanout. -/
def withoutFanout (hub : Hub) : Hub := { hub with stats := hub.stats.withoutFanout }

theorem publish_withoutFanout (fanout : Option Bool) (envelope : Envelope) (stats : HubStats) :
    publish none envelope stats.withoutFanout =
      let (stats, events) := publish fanout envelope stats
      (stats.withoutFanout, events.filter Event.isInternal) := by
  unfold publish
  cases envelope.isLocal with
  | false => rfl
  | true => rcases fanout with - | - | - <;> rfl

theorem internal_departed (departure : Option Departure) :
    (departed departure).filter Event.isInternal = departed departure := by
  cases departure <;> rfl

theorem internal_arrived (room : String) (outcome : JoinOutcome) :
    (arrived room outcome).filter Event.isInternal = arrived room outcome := by
  rw [arrived, List.filter_append, internal_departed]
  cases outcome.added <;> rfl

/-- Whatever a fanout says or said before, a step does what it does without one. -/
theorem process_withoutFanout (fanout : Option Bool) (command : Command) (hub : Hub)
    (queues : Queues) :
    hub.withoutFanout.process none command queues =
      let step := hub.process fanout command queues
      { hub := step.hub.withoutFanout
        queues := step.queues
        events := step.events.filter Event.isInternal } := by
  cases command with
  | broadcast envelope =>
      have removals (removed : List ClientId) :
          (removed.map fun _ => Event.recorded (.left envelope.room)).filter Event.isInternal =
            removed.map fun _ => Event.recorded (.left envelope.room) := by
        simp [Event.isInternal]
      let report := (hub.registry.deliver envelope.room envelope.payload queues).1
      have published := publish_withoutFanout fanout envelope { hub.stats with
        broadcasts := hub.stats.broadcasts + 1
        deliveries := hub.stats.deliveries + report.delivered
        evictions := hub.stats.evictions + report.evicted.length }
      simp only [HubStats.withoutFanout, report] at published
      simp only [process, handle, broadcast, withoutFanout, recount, HubStats.withoutFanout,
        published, List.filter_cons, List.filter_append, removals, Event.isInternal, if_true]
  | join room given =>
      simp only [process, handle, internal_arrived]
      rfl
  | leave room client =>
      simp only [process, handle, internal_departed]
      rfl
  | switch client room =>
      simp only [process, handle, withoutFanout]
      split
      · rw [internal_arrived]
        rfl
      · rfl
  | disconnect client =>
      simp only [process, handle, internal_departed]
      rfl
  | snapshot ticket => rfl

end Hub

namespace World

/-- The world without the counters that tell of the fanout. -/
def withoutFanout (world : World) : World :=
  { world with loop := { world.loop with hub := world.loop.hub.withoutFanout } }

end World

/-- The same step of a hub that has no fanout. -/
def WorldMove.withoutFanout : WorldMove → WorldMove
  | .advance _ => .advance none
  | move => move

/-- The step of the world that a step of a venue makes, whatever the fanout says to it. -/
def VenueMove.own? : VenueMove → Option WorldMove
  | .world move => some move.withoutFanout
  | _ => none

namespace World

theorem submit_withoutFanout (world : World) (command : Command) :
    world.withoutFanout.step (.submit command) = (world.step (.submit command)).withoutFanout := by
  simp only [step]
  by_cases possible : world.loop.canUpgrade ∧ EventLoop.carried command ⊆ world.loose
  · have possible' : world.withoutFanout.loop.canUpgrade ∧
        EventLoop.carried command ⊆ world.withoutFanout.loose := possible
    rw [if_pos possible, if_pos possible']
    simp only [EventLoop.submit]
    cases running : world.loop.running with
    | false => simp [withoutFanout, running]
    | true =>
        by_cases full : world.loop.capacity ≤ world.loop.pending.length <;>
          simp [withoutFanout, running, full]
  · have impossible : ¬(world.withoutFanout.loop.canUpgrade ∧
        EventLoop.carried command ⊆ world.withoutFanout.loose) := possible
    rw [if_neg possible, if_neg impossible]

theorem advance_withoutFanout (world : World) (fanout : Option Bool) :
    world.withoutFanout.step (.advance none) = (world.step (.advance fanout)).withoutFanout ∧
      world.withoutFanout.reports (.advance none) =
        (world.reports (.advance fanout)).filter Event.isInternal := by
  cases running : world.loop.running with
  | false => simp [step, reports, withoutFanout, EventLoop.advance, running]
  | true =>
      have running' : world.withoutFanout.loop.running = true := running
      have queues : world.withoutFanout.queues = world.queues := rfl
      cases next : world.loop.pending with
      | cons command rest =>
          have next' : world.withoutFanout.loop.pending = command :: rest := next
          simp only [step, reports, queues, EventLoop.advance_cons running next,
            EventLoop.advance_cons running' next']
          simp only [withoutFanout, Hub.process_withoutFanout fanout, and_self]
      | nil =>
          have next' : world.withoutFanout.loop.pending = [] := next
          simp only [step, reports, queues, EventLoop.advance_nil running next,
            EventLoop.advance_nil running' next']
          by_cases unheld : world.loop.handles = 0
          · have unheld' : world.withoutFanout.loop.handles = 0 := unheld
            rw [if_pos unheld, if_pos unheld']
            exact ⟨rfl, rfl⟩
          · have held' : ¬world.withoutFanout.loop.handles = 0 := unheld
            rw [if_neg unheld, if_neg held']
            exact ⟨rfl, rfl⟩

/-- A world whose hub has no fanout takes the same steps. -/
theorem step_withoutFanout (world : World) (move : WorldMove) :
    world.withoutFanout.step move.withoutFanout = (world.step move).withoutFanout ∧
      world.withoutFanout.reports move.withoutFanout =
        (world.reports move).filter Event.isInternal := by
  cases move with
  | connect handle capacity =>
      refine ⟨?_, rfl⟩
      by_cases opened : handle.queue ∈ world.queues <;>
        simp [step, withoutFanout, WorldMove.withoutFanout, opened]
  | push handle payload =>
      refine ⟨?_, rfl⟩
      by_cases loose : handle ∈ world.loose <;>
        simp [step, withoutFanout, WorldMove.withoutFanout, loose]
  | forget handle =>
      refine ⟨?_, rfl⟩
      by_cases loose : handle ∈ world.loose <;>
        simp [step, withoutFanout, WorldMove.withoutFanout, loose]
  | submit command => exact ⟨world.submit_withoutFanout command, rfl⟩
  | retain =>
      refine ⟨?_, rfl⟩
      by_cases upgrades : world.loop.canUpgrade <;>
        simp_all [step, withoutFanout, WorldMove.withoutFanout, EventLoop.canUpgrade,
          EventLoop.retain]
  | advance fanout => exact world.advance_withoutFanout fanout
  | _ => exact ⟨rfl, rfl⟩

/-- A step that shows the world before it and what the loop reports. -/
def report (world : World) (move : WorldMove) : List (World × List Event) × World :=
  ([(world, world.reports move)], world.step move)

end World

namespace Venue

/-- What is seen of a step by those who do not look at the fanout. -/
def internally (entry : World × WorldMove) : World × List Event :=
  (entry.1.withoutFanout, (entry.1.reports entry.2).filter Event.isInternal)

@[simp] theorem withoutFanout_actual (venue : Venue) (move : WorldMove) :
    (venue.actual move).withoutFanout = move.withoutFanout := by
  cases move <;> rfl

/-- A hub without a fanout among the same clients goes through what a hub goes through. -/
theorem run_withoutFanout (venue : Venue) (moves : List VenueMove) :
    let run := play step venue moves
    (run.1.map internally, run.2.world.withoutFanout) =
      play World.report venue.world.withoutFanout (moves.filterMap VenueMove.own?) := by
  induction moves generalizing venue with
  | nil => rfl
  | cons move moves ih =>
      cases move with
      | world move =>
          have own : (VenueMove.world move).own? = some move.withoutFanout := rfl
          obtain ⟨shown, steps⟩ := venue.world_step move
          obtain ⟨steps', reports⟩ := venue.world.step_withoutFanout (venue.actual move)
          rw [withoutFanout_actual] at steps' reports
          have later := ih (venue.step (.world move)).2
          rw [steps, ← steps'] at later
          simp only [List.filterMap_cons, own, play, World.report, shown, List.map_append,
            List.map_singleton, internally, reports, ← later]
      | _ => exact ih _

end Venue

/-- Whatever two hubs have attached, among the same clients they go through the same: the registry
    and every queue before each step and at the end, and all that is reported, answers to requests
    for a snapshot among it. Only what they count of their fanouts may differ. -/
theorem service_does_not_depend_on_attachments {capacity : Nat} {venue venue' : Venue}
    (new : venue.world = .start capacity) (new' : venue'.world = .start capacity)
    {moves moves' : List VenueMove}
    (same : moves.filterMap VenueMove.own? = moves'.filterMap VenueMove.own?) :
    let run := play Venue.step venue moves
    let run' := play Venue.step venue' moves'
    run.1.map Venue.internally = run'.1.map Venue.internally ∧
      run.2.world.withoutFanout = run'.2.world.withoutFanout := by
  have runs := venue.run_withoutFanout moves
  have runs' := venue'.run_withoutFanout moves'
  rw [new, same] at runs
  rw [new'] at runs'
  exact Prod.mk.inj (runs.trans runs'.symm)

/-- A hub with nothing attached, and one with everything, whose fanout accepts a broadcast and then
    refuses the one that evicts a client. -/
theorem service_does_not_depend_on_attachments_refused :
    let bare : Venue := { node := { id := .zero, loop := .ofCapacity 8 } }
    let equipped : Venue :=
      { node := { bare.node with
          outbox := some (.ofCapacity 1), presence := some {}, metrics := some {} } }
    let served (command : Command) : List VenueMove :=
      [.world (.submit command), .world (.advance none)]
    let first := .world (.connect ⟨1, 1⟩ 1) :: served (.join "a" ⟨1, 1⟩) ++
      served (.broadcast ⟨"a", [7], .here⟩)
    let second := served (.broadcast ⟨"a", [8], .here⟩) ++ served (.snapshot 0)
    let run := play Venue.step bare (first ++ second)
    let run' := play Venue.step equipped (first ++ .fanout Outbox.abandon :: second)
    run.1.map Venue.internally = run'.1.map Venue.internally ∧
      run.2.world.withoutFanout = run'.2.world.withoutFanout ∧
      run.2.node.loop.hub.stats = { broadcasts := 2, deliveries := 1, evictions := 1 } ∧
      run'.2.node.loop.hub.stats =
        { broadcasts := 2, deliveries := 1, evictions := 1, published := 1, unpublished := 1 } := by
  intro bare equipped served first second run run'
  have same : (first ++ second).filterMap VenueMove.own? =
      (first ++ .fanout Outbox.abandon :: second).filterMap VenueMove.own? := rfl
  have new : bare.world = .start 8 := rfl
  have new' : equipped.world = .start 8 := rfl
  obtain ⟨logs, worlds⟩ := service_does_not_depend_on_attachments new new' same
  exact ⟨logs, worlds, by decide +kernel, by decide +kernel⟩

end ChatRelay
