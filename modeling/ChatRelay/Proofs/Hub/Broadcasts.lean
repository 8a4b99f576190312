import ChatRelay.Hub.Node

/-! # What a hub reports of broadcasts

A hub reports a broadcast exactly when it processes one, and what it hands to the fanout are the
broadcasts submitted on its own instance.
-/

namespace ChatRelay

/-- The broadcast that a command asks for. -/
def Command.envelope? : Command → Option Envelope
  | .broadcast envelope => some envelope
  | _ => none

/-- The broadcast whose processing a report tells of. -/
def Event.processed? : Event → Option Envelope
  | .delivered envelope _ => some envelope
  | _ => none

/-- The local broadcast that was handed to the fanout, and the answer. -/
def Event.offered? : Event → Option (Envelope × Bool)
  | .published room payload accepted => some ({ room, payload, origin := .here }, accepted)
  | _ => none

/-- The room and the payload that the fanout accepted. -/
def Event.accepted? : Event → Option (String × Bytes)
  | .published room payload true => some (room, payload)
  | _ => none

/-- What the fanout gets of a broadcast that it would accept. -/
def Envelope.outgoing (envelope : Envelope) : List (String × Bytes) :=
  if envelope.isLocal then [(envelope.room, envelope.payload)] else []

namespace Hub

/-- What is handed to the fanout does not depend on the counters. -/
theorem publish_snd (fanout : Option Bool) (envelope : Envelope) (stats : HubStats) :
    (publish fanout envelope stats).2 =
      match fanout with
      | none => []
      | some accepted =>
          envelope.outgoing.map fun (room, payload) => .published room payload accepted := by
  unfold publish Envelope.outgoing
  cases fanout <;> split <;> rfl

/-- What a step adds to the counters. -/
theorem stats_process (fanout : Option Bool) (command : Command) (hub : Hub) (queues : Queues) :
    (hub.process fanout command queues).hub.stats =
      let registry := (hub.process fanout command queues).hub.registry
      match command with
      | .broadcast envelope =>
          let report := (hub.registry.deliver envelope.room envelope.payload queues).1
          { broadcasts := hub.stats.broadcasts + 1
            remoteBroadcasts := hub.stats.remoteBroadcasts + if envelope.isLocal then 0 else 1
            deliveries := hub.stats.deliveries + report.delivered
            evictions := hub.stats.evictions + report.evicted.length
            published := hub.stats.published +
              if envelope.isLocal ∧ fanout = some true then 1 else 0
            unpublished := hub.stats.unpublished +
              if envelope.isLocal ∧ fanout = some false then 1 else 0
            rooms := registry.roomCount
            clients := registry.clientCount }
      | _ => { hub.stats with rooms := registry.roomCount, clients := registry.clientCount } := by
  cases command with
  | broadcast envelope =>
      simp only [process, handle, broadcast, recount, publish]
      cases envelope.isLocal with
      | false => simp
      | true => rcases fanout with - | - | - <;> simp
  | _ => rfl

section

variable {α : Type} {read : Event → Option α} (silent : ∀ change, read (.recorded change) = none)
include silent

theorem filterMap_departed (departure : Option Departure) :
    (departed departure).filterMap read = [] := by
  cases departure <;> simp [departed, silent]

theorem filterMap_arrived (room : String) (outcome : JoinOutcome) :
    (arrived room outcome).filterMap read = [] := by
  rw [arrived, List.filterMap_append, filterMap_departed silent]
  cases outcome.added <;> simp [silent]

/-- What can be read off a step, for a reading that passes over changes of membership. -/
theorem filterMap_process (fanout : Option Bool) (command : Command) (hub : Hub) (queues : Queues) :
    (hub.process fanout command queues).events.filterMap read =
      match command with
      | .broadcast envelope =>
          (read (.delivered envelope
            (hub.registry.deliver envelope.room envelope.payload queues).1)).toList ++
          (publish fanout envelope {}).2.filterMap read
      | .snapshot ticket => (read (.answered ticket hub.registry.snapshot)).toList
      | _ => [] := by
  cases command with
  | join room handle => exact filterMap_arrived silent room _
  | leave room client => exact filterMap_departed silent _
  | switch client room =>
      simp only [process, handle]
      split
      · exact filterMap_arrived silent room _
      · rfl
  | disconnect client => exact filterMap_departed silent _
  | broadcast envelope =>
      have removals (removed : List ClientId) :
          (removed.map fun _ => Event.recorded (.left envelope.room)).filterMap read = [] := by
        simp [silent]
      simp only [process, handle, broadcast, publish_snd, List.cons_append, List.filterMap_cons,
        List.filterMap_append, removals, List.nil_append]
      cases read (.delivered envelope _) <;> rfl
  | snapshot ticket =>
      simp only [process, handle, List.filterMap_cons, List.filterMap_nil]
      cases read (.answered ticket hub.registry.snapshot) <;> rfl

end

/-- A step reports the broadcast that it processes. -/
theorem filterMap_processed (fanout : Option Bool) (command : Command) (hub : Hub)
    (queues : Queues) :
    (hub.process fanout command queues).events.filterMap Event.processed? =
      command.envelope?.toList := by
  rw [filterMap_process fun _ => rfl]
  cases command with
  | broadcast envelope =>
      simp only [publish_snd]
      cases fanout <;>
        simp [Event.processed?, Command.envelope?, List.filterMap_map, Function.comp_def]
  | _ => rfl

/-- A step hands a local broadcast to the fanout, and nothing else. -/
theorem filterMap_offered (accepts : Bool) (command : Command) (hub : Hub) (queues : Queues) :
    (hub.process (some accepts) command queues).events.filterMap Event.offered? =
      (command.envelope?.toList.filter Envelope.isLocal).map (·, accepts) := by
  rw [filterMap_process fun _ => rfl]
  cases command with
  | broadcast envelope =>
      obtain ⟨room, payload, origin⟩ := envelope
      simp only [publish_snd]
      cases origin <;> rfl
  | _ => rfl

theorem filterMap_offered_none (command : Command) (hub : Hub) (queues : Queues) :
    (hub.process none command queues).events.filterMap Event.offered? = [] := by
  rw [filterMap_process fun _ => rfl]
  cases command with
  | broadcast envelope => simp only [publish_snd]; rfl
  | _ => rfl

theorem filterMap_accepted (accepts : Bool) (command : Command) (hub : Hub) (queues : Queues) :
    (hub.process (some accepts) command queues).events.filterMap Event.accepted? =
      if accepts then command.envelope?.toList.flatMap Envelope.outgoing else [] := by
  rw [filterMap_process fun _ => rfl]
  cases command with
  | broadcast envelope =>
      simp only [publish_snd]
      cases accepts <;>
        simp [Event.accepted?, Command.envelope?, List.filterMap_map, Function.comp_def]
  | _ => cases accepts <;> rfl

end Hub

/-- Other instances are told what the fanout accepted. -/
theorem Node.announced_eq (node : Node) (events : List Event) :
    node.announced events = (events.filterMap Event.accepted?).map fun (room, payload) =>
      (node.naming.channel room, Wire.encode node.id payload) := by
  induction events with
  | nil => rfl
  | cons event events ih =>
      rw [List.filterMap_cons]
      cases event with
      | published room payload accepted =>
          cases accepted <;> simp [announced, Event.accepted?, ih]
      | _ => simp [announced, Event.accepted?, ih]

end ChatRelay
