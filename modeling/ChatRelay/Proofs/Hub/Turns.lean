import ChatRelay.Proofs.Hub.Broadcasts
import ChatRelay.Proofs.Run

/-! # A hub without a channel

What a hub does of some requests if it processes each of them at once. No counter goes down in the
meantime, but for those of rooms and clients, which say how things are.
-/

namespace ChatRelay

/-- One request after the other, with whatever happens to the outbound queues in between. -/
inductive Turn where
  | process (command : Command) (fanout : Option Bool)
  | elsewhere (change : Queues → Queues)

/-- The request that is processed. -/
def Turn.command? : Turn → Option Command
  | .process command _ => some command
  | .elsewhere _ => none

/-- A hub without a channel processes a request at once. -/
def Hub.turn : Hub × Queues → Turn → List Event × Hub × Queues
  | (hub, queues), .process command fanout =>
      let step := hub.process fanout command queues
      (step.events, step.hub, step.queues)
  | (hub, queues), .elsewhere change => ([], hub, change queues)

/-- No counter went down, but for those of rooms and clients. -/
structure HubStats.Grows (earlier later : HubStats) : Prop where
  broadcasts : earlier.broadcasts ≤ later.broadcasts
  remoteBroadcasts : earlier.remoteBroadcasts ≤ later.remoteBroadcasts
  deliveries : earlier.deliveries ≤ later.deliveries
  evictions : earlier.evictions ≤ later.evictions
  published : earlier.published ≤ later.published
  unpublished : earlier.unpublished ≤ later.unpublished

namespace HubStats.Grows

theorem refl (stats : HubStats) : stats.Grows stats := by constructor <;> exact Nat.le_refl _

theorem trans {first second third : HubStats} (before : first.Grows second)
    (after : second.Grows third) : first.Grows third where
  broadcasts := Nat.le_trans before.broadcasts after.broadcasts
  remoteBroadcasts := Nat.le_trans before.remoteBroadcasts after.remoteBroadcasts
  deliveries := Nat.le_trans before.deliveries after.deliveries
  evictions := Nat.le_trans before.evictions after.evictions
  published := Nat.le_trans before.published after.published
  unpublished := Nat.le_trans before.unpublished after.unpublished

end HubStats.Grows

namespace Hub

theorem process_grows (fanout : Option Bool) (command : Command) (hub : Hub) (queues : Queues) :
    hub.stats.Grows (hub.process fanout command queues).hub.stats := by
  rw [stats_process]
  cases command <;> constructor <;> first | exact Nat.le_add_right _ _ | exact Nat.le_refl _

/-- The counters of rooms and clients are up to date. -/
def Counted (hub : Hub) : Prop :=
  hub.stats.rooms = hub.registry.roomCount ∧ hub.stats.clients = hub.registry.clientCount

theorem Counted.recount {hub : Hub} (counted : hub.Counted) : hub.recount = hub := by
  obtain ⟨rooms, clients⟩ := counted
  rw [Hub.recount, ← rooms, ← clients]

theorem counted_process (fanout : Option Bool) (command : Command) (hub : Hub) (queues : Queues) :
    (hub.process fanout command queues).hub.Counted := ⟨rfl, rfl⟩

theorem play_turn_grows (turns : List Turn) (state : Hub × Queues) :
    state.1.stats.Grows (play turn state turns).2.1.stats := by
  induction turns generalizing state with
  | nil => exact .refl _
  | cons turn turns ih =>
      obtain ⟨hub, queues⟩ := state
      refine HubStats.Grows.trans ?_ (ih _)
      cases turn with
      | process command fanout => exact hub.process_grows fanout command queues
      | elsewhere change => exact .refl _

theorem counted_play_turn (turns : List Turn) : (play turn ({}, ∅) turns).2.1.Counted :=
  play_induction (motive := fun _ (state : Hub × Queues) => state.1.Counted)
    (fun _ state turn counted => by
      cases turn with
      | process command fanout => exact counted_process fanout command state.1 state.2
      | elsewhere change => exact counted)
    ⟨rfl, rfl⟩ turns

end Hub

end ChatRelay
