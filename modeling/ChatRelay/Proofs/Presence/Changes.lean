import ChatRelay.Hub.Process
import ChatRelay.Proofs.Hub.Delivery
import ChatRelay.Proofs.Presence.Counters

/-! # The changes that a command reports

`Command.due` lists the changes of membership that a command has to report. The hub reports exactly
those, and they account for what the command did to the number of members of every room.
-/

namespace ChatRelay

/-- The changes of a client leaving the room that it is in. -/
def PresenceChange.leaving (place? : Option String) : List PresenceChange :=
  (place?.map .left).toList

/-- The changes of a client coming to `room`; none if it is there already. -/
def PresenceChange.arriving (place? : Option String) (room : String) : List PresenceChange :=
  if place? = some room then [] else leaving place? ++ [.joined room]

/-- The changes of membership that a command has to report, from the registries before and after
    it. Only a broadcast needs the one after: every member that it removed has left. -/
def Command.due (before after : Registry) : Command → List PresenceChange
  | .join room handle => PresenceChange.arriving (before.roomOf? handle.client) room
  | .leave room client =>
      if before.roomOf? client = some room then PresenceChange.leaving (some room) else []
  | .switch client room =>
      if (before.roomOf? client).isSome then
        PresenceChange.arriving (before.roomOf? client) room
      else []
  | .disconnect client => PresenceChange.leaving (before.roomOf? client)
  | .broadcast envelope =>
      List.replicate (before.members envelope.room - after.members envelope.room)
        (.left envelope.room)
  | .snapshot _ => []

namespace Roster

/-- The clients in a room. -/
def clients (roster : Roster) (room : String) : Finset ClientId :=
  ((roster.membersOf room).map Prod.fst).toFinset

theorem mem_clients {roster : Roster} {room : String} {client : ClientId} :
    client ∈ roster.clients room ↔ roster.roomOf? client = some room := by
  simp [clients, mem_membersOf, roomOf?_eq_some_iff]

theorem clients_put (roster : Roster) (room : String) (handle : Handle) (place : String) :
    (roster.put room handle).clients place =
      if place = room then insert handle.client (roster.clients place)
      else (roster.clients place).erase handle.client := by
  ext client
  rw [mem_clients, roomOf?_put]
  by_cases same : place = room
  · subst same
    rw [if_pos rfl, Finset.mem_insert, mem_clients]
    split <;> simp_all [eq_comm]
  · rw [if_neg same, Finset.mem_erase, mem_clients]
    split <;> simp_all [eq_comm]

theorem clients_without (roster : Roster) (gone : List ClientId) (room : String) :
    (roster.without gone).clients room = roster.clients room \ gone.toFinset := by
  ext client
  rw [mem_clients, roomOf?_without, Finset.mem_sdiff, mem_clients, List.mem_toFinset]
  split <;> simp_all

end Roster

namespace PresenceChange

/-- Changes that account for the clients of a room before and after them: the difference is their
    sum, and whoever joined is there. -/
structure Account (before after : Roster) (changes : List PresenceChange) : Prop where
  sum : ∀ room, ((after.clients room).card : Int) = (before.clients room).card + net room changes
  present : ∀ room, changes.count (.joined room) ≤ (after.clients room).card

theorem Account.nil (roster : Roster) : Account roster roster [] := by
  constructor <;> simp

theorem Account.joining {roster : Roster} (room : String) {handle : Handle}
    (nowhere : roster.roomOf? handle.client = none) :
    Account roster (roster.put room handle) [.joined room] := by
  have absent (place : String) : handle.client ∉ roster.clients place := by
    simp [Roster.mem_clients, nowhere]
  constructor
  · intro place
    rw [Roster.clients_put]
    by_cases same : place = room
    · subst same
      rw [if_pos rfl, Finset.card_insert_of_notMem (absent place)]
      simp [weight]
    · rw [if_neg same, Finset.erase_eq_of_notMem (absent place)]
      simp [weight, Ne.symm same]
  · intro place
    rw [Roster.clients_put, List.count_singleton]
    by_cases same : place = room
    · subst same
      rw [if_pos rfl, Finset.card_insert_of_notMem (absent place)]
      simp
    · simp [Ne.symm same]

theorem Account.removing {roster : Roster} {room : String} {gone : List ClientId}
    (nodup : gone.Nodup) (members : ∀ client ∈ gone, roster.roomOf? client = some room) :
    Account roster (roster.without gone) (List.replicate gone.length (.left room)) := by
  constructor
  · intro place
    rw [Roster.clients_without, net_replicate]
    by_cases same : room = place
    · subst same
      have inside : gone.toFinset ⊆ roster.clients room := by
        intro client removed
        exact Roster.mem_clients.mpr (members client (List.mem_toFinset.mp removed))
      have parts := Finset.card_sdiff_add_card_eq_card inside
      rw [List.toFinset_card_of_nodup nodup] at parts
      simp only [weight, if_true]
      omega
    · have apart : Disjoint (roster.clients place) gone.toFinset := by
        rw [Finset.disjoint_left]
        intro client here removed
        have there := members client (List.mem_toFinset.mp removed)
        exact same (Option.some.inj (there.symm.trans (Roster.mem_clients.mp here)))
      simp [Finset.sdiff_eq_self_of_disjoint apart, weight, same]
  · intro place
    simp [List.count_replicate]

theorem Account.leaving (roster : Roster) (client : ClientId) :
    Account roster (roster.without [client]) (leaving (roster.roomOf? client)) := by
  cases at_place : roster.roomOf? client with
  | none =>
      have absent : roster[client]? = none := by simpa [Roster.roomOf?] using at_place
      rw [Roster.without_of_absent absent]
      exact .nil roster
  | some room => exact Account.removing (by simp) (by simpa using at_place)

theorem Account.arriving (roster : Roster) (room : String) (handle : Handle) :
    Account roster (roster.put room handle)
      (arriving (roster.roomOf? handle.client) room) := by
  unfold PresenceChange.arriving
  split
  · next settled =>
      have stays (place : String) :
          (roster.put room handle).clients place = roster.clients place := by
        ext client
        rw [Roster.mem_clients, Roster.mem_clients, Roster.roomOf?_put]
        split
        · next same => rw [← same, settled]
        · rfl
      constructor <;> simp [stays]
  · have left := Account.leaving roster handle.client
    have nowhere : (roster.without [handle.client]).roomOf? handle.client = none := by
      simp [Roster.roomOf?_without]
    have joined := Account.joining room nowhere
    rw [Roster.put_without] at joined
    constructor
    · intro place
      rw [net_append, joined.sum, left.sum, Int.add_assoc]
    · intro place
      have departs : (PresenceChange.leaving (roster.roomOf? handle.client)).count
          (.joined place) = 0 := by
        simp [PresenceChange.leaving, List.count_eq_zero]
      rw [List.count_append, departs, Nat.zero_add]
      exact joined.present place

end PresenceChange

namespace Hub

theorem change?_arrived {before after : Roster} {client : ClientId} {room : String}
    (there : after.roomOf? client = some room) :
    (arrived room (before.arrival after client room)).filterMap Event.change? =
      PresenceChange.arriving (before.roomOf? client) room := by
  unfold arrived Roster.arrival Roster.departure? PresenceChange.arriving
  rw [there]
  cases at_place : before.roomOf? client with
  | none => rfl
  | some old =>
      by_cases same : old = room
      · simp [same, departed]
      · simp [same, Ne.symm same, departed, PresenceChange.leaving, Event.change?]

theorem change?_departed {before after : Roster} {client : ClientId}
    (gone : after.roomOf? client = none) :
    (departed (before.departure? after client)).filterMap Event.change? =
      PresenceChange.leaving (before.roomOf? client) := by
  unfold Roster.departure?
  rw [gone]
  cases before.roomOf? client <;> rfl

theorem change?_publish (fanout : Option Bool) (envelope : Envelope) (stats : HubStats) :
    (publish fanout envelope stats).2.filterMap Event.change? = [] := by
  unfold publish
  split
  · split <;> rfl
  · rfl

end Hub

namespace Registry

namespace Mirrors

variable {roster : Roster}

theorem members_eq {registry : Registry} (mirrors : registry.Mirrors roster) (room : String) :
    registry.members room = (roster.clients room).card := by
  rw [Roster.clients, List.toFinset_card_of_nodup (roster.nodup_membersOf room), List.length_map]
  unfold Registry.members
  split
  · next members found => rw [← mirrors.toList_members found, Std.ExtTreeMap.length_toList]
  · next absent => rw [mirrors.membersOf_eq_nil absent, List.length_nil]

/-- A step of the hub reports the changes that are due to a command, and they account for what it
    did. -/
def Reports (registry : Registry) (roster : Roster) (command : Command) (step : Step) : Prop :=
  step.events.filterMap Event.change? = command.due registry step.hub.registry ∧
    ∃ after, step.hub.registry.Mirrors after ∧
      PresenceChange.Account roster after (command.due registry step.hub.registry)

/-- A snapshot lists the rooms that have members, with their numbers. -/
theorem mem_snapshot {registry : Registry} (mirrors : registry.Mirrors roster) {room : String}
    {members : Nat} : (room, members) ∈ registry.snapshot.rooms ↔
      0 < registry.members room ∧ members = registry.members room := by
  have exist := mirrors.rooms room
  have populated : 0 < registry.members room ↔ ∃ client, roster.roomOf? client = some room := by
    rw [mirrors.members_eq, Finset.card_pos]
    exact exists_congr fun client => Roster.mem_clients
  rw [populated, ← exist, Std.ExtTreeMap.mem_iff_isSome_getElem?]
  simp only [snapshot, List.mem_map, Prod.exists, Prod.mk.injEq,
    Std.ExtTreeMap.mem_toList_iff_getElem?_eq_some, Registry.members]
  constructor
  · rintro ⟨_, clients, found, rfl, rfl⟩
    simp [found]
  · rintro ⟨found, rfl⟩
    obtain ⟨clients, found⟩ := Option.isSome_iff_exists.mp found
    exact ⟨room, clients, found, rfl, by simp [found]⟩

/-- The active rooms of a ledger with the members of a registry are the snapshot of it. -/
theorem active_eq_snapshot {registry : Registry} (mirrors : registry.Mirrors roster)
    {ledger : PresenceLedger} (sound : ledger.Sound)
    (total : ∀ room, ledger.total room = registry.members room) :
    ledger.active = registry.snapshot.rooms.map fun (room, members) => ⟨room, members⟩ := by
  apply eq_of_ascending RoomPresence.room ledger.ordered_active
  · rw [Registry.snapshot, List.map_map, List.pairwise_map]
    exact Std.ExtTreeMap.ordered_keys_toList
  · rintro ⟨room, members⟩
    simp only [sound.mem_active, total, Int.natCast_pos, List.mem_map, Prod.exists,
      mirrors.mem_snapshot, RoomPresence.mk.injEq]
    constructor
    · rintro ⟨populated, rfl⟩
      exact ⟨room, _, ⟨populated, rfl⟩, rfl, rfl⟩
    · rintro ⟨_, _, ⟨populated, rfl⟩, rfl, rfl⟩
      exact ⟨populated, rfl⟩

theorem reports_leave {hub : Hub} (mirrors : hub.registry.Mirrors roster) (fanout : Option Bool)
    (room : String) (client : ClientId) (queues : Queues) :
    Reports hub.registry roster (.leave room client)
      (hub.process fanout (.leave room client) queues) := by
  obtain ⟨left, after, call, mirrored, outcome⟩ := mirrors.leave room client
  have here : hub.registry.roomOf? client = roster.roomOf? client := mirrors.index client
  simp only [Reports, Hub.process, Hub.handle, Hub.recount, call, Command.due, here]
  by_cases there : roster.roomOf? client = some room
  · rw [if_pos there] at outcome ⊢
    rw [← there]
    subst outcome
    refine ⟨Hub.change?_departed ?_, _, mirrored, .leaving roster client⟩
    simp [Roster.roomOf?_without]
  · rw [if_neg there] at outcome ⊢
    subst outcome
    refine ⟨?_, _, mirrored, .nil after⟩
    unfold Roster.departure?
    cases after.roomOf? client <;> simp [Hub.departed]

theorem reports_switch {hub : Hub} (mirrors : hub.registry.Mirrors roster) (fanout : Option Bool)
    (client : ClientId) (room : String) (queues : Queues) :
    Reports hub.registry roster (.switch client room)
      (hub.process fanout (.switch client room) queues) := by
  obtain ⟨moved, call, mirrored⟩ := mirrors.switch client room
  have here : hub.registry.roomOf? client = roster.roomOf? client := mirrors.index client
  simp only [Reports, Hub.process, Hub.handle, Hub.recount, call, Command.due, here]
  cases present : roster[client]? with
  | none =>
      have stays : roster.move client room = roster := by simp [Roster.move, present]
      rw [stays] at mirrored
      simp only [Roster.handleOf?, Roster.roomOf?, present, Option.map_none]
      exact ⟨rfl, roster, mirrored, .nil roster⟩
  | some kept =>
      obtain ⟨place, handle⟩ := kept
      have own := mirrors.own client place handle present
      have goes : roster.move client room = roster.put room handle := by
        simp [Roster.move, present]
      have at_place : roster.roomOf? client = some place :=
        Roster.roomOf?_eq_some_iff.mpr ⟨handle, present⟩
      subst own
      rw [goes] at mirrored ⊢
      simp only [Roster.handleOf?, present, Option.map_some, at_place, Option.isSome_some, if_true]
      rw [← at_place]
      refine ⟨Hub.change?_arrived ?_, _, mirrored, .arriving roster room handle⟩
      simp [Roster.roomOf?_put]

theorem reports_broadcast {hub : Hub} (mirrors : hub.registry.Mirrors roster)
    (fanout : Option Bool) (envelope : Envelope) (queues : Queues) :
    Reports hub.registry roster (.broadcast envelope)
      (hub.process fanout (.broadcast envelope) queues) := by
  obtain ⟨left, call, mirrored⟩ := mirrors.deliver envelope.room envelope.payload queues
  have nodup := nodup_removed_offerEach envelope.payload queues
    (roster.nodup_membersOf envelope.room)
  have account := PresenceChange.Account.removing nodup fun _ => roomOf?_of_removed
  -- The registries before and after tell how many members were removed.
  have count : hub.registry.members envelope.room - left.members envelope.room =
      (offerEach envelope.payload (roster.membersOf envelope.room) queues).1.removed.length := by
    have difference := account.sum envelope.room
    rw [PresenceChange.net_replicate] at difference
    simp only [PresenceChange.weight, if_true] at difference
    rw [mirrors.members_eq, mirrored.members_eq]
    omega
  simp only [Reports, Hub.process, Hub.handle, Hub.broadcast, Hub.recount, call, Command.due, count]
  have one_each (clients : List ClientId) :
      clients.filterMap (fun _ => some (PresenceChange.left envelope.room)) =
        List.replicate clients.length (.left envelope.room) := by
    simp
  refine ⟨?_, _, mirrored, account⟩
  rw [List.filterMap_append, Hub.change?_publish, List.append_nil,
    List.filterMap_cons_none (by rfl), List.filterMap_map]
  exact one_each _

/-- Whatever the command is, the changes reported are those that are due. -/
theorem reports {hub : Hub} (mirrors : hub.registry.Mirrors roster) (fanout : Option Bool)
    (command : Command) (queues : Queues) :
    Reports hub.registry roster command (hub.process fanout command queues) := by
  cases command with
  | join room handle =>
      obtain ⟨joined, call, mirrored⟩ := mirrors.join room handle
      have here : hub.registry.roomOf? handle.client = roster.roomOf? handle.client :=
        mirrors.index handle.client
      simp only [Reports, Hub.process, Hub.handle, Hub.recount, call, Command.due, here]
      refine ⟨Hub.change?_arrived ?_, _, mirrored, .arriving roster room handle⟩
      simp [Roster.roomOf?_put]
  | leave room client => exact mirrors.reports_leave fanout room client queues
  | switch client room => exact mirrors.reports_switch fanout client room queues
  | disconnect client =>
      obtain ⟨left, call, mirrored⟩ := mirrors.disconnect client
      have here : hub.registry.roomOf? client = roster.roomOf? client := mirrors.index client
      simp only [Reports, Hub.process, Hub.handle, Hub.recount, call, Command.due, here]
      refine ⟨Hub.change?_departed ?_, _, mirrored, .leaving roster client⟩
      simp [Roster.roomOf?_without]
  | broadcast envelope => exact mirrors.reports_broadcast fanout envelope queues
  | snapshot ticket => exact ⟨rfl, roster, mirrors, .nil roster⟩

end Mirrors

end Registry
end ChatRelay
