import ChatRelay.Proofs.Hub.Channel
import ChatRelay.Proofs.Hub.RegistryRuns

/-! # What a command does

A step of the hub is a step of the roster, and for the queues it is an offer to the members of a
room or nothing, after which some handles are let go. What becomes of one client is told by where
that client is and by what its own queue answers; nobody else has a say in it.
-/

namespace ChatRelay

/-- The call of the registry that a command leads to. -/
def Command.call? (queues : Queues) : Command → Option RegistryCall
  | .join room handle => some (.join room handle)
  | .leave room client => some (.leave room client)
  | .switch client room => some (.switch client room)
  | .disconnect client => some (.disconnect client)
  | .broadcast envelope => some (.deliver envelope.room envelope.payload queues)
  | .snapshot _ => none

/-- The client that a command is about. -/
def Command.subject? : Command → Option ClientId
  | .join _ handle => some handle.client
  | .leave _ client | .switch client _ | .disconnect client => some client
  | .broadcast _ | .snapshot _ => none

/-- The roster after a command. -/
def Roster.processing (roster : Roster) (command : Command) (queues : Queues) : Roster :=
  match command.call? queues with
  | some call => roster.after call
  | none => roster

/-- What a command does to a queue, but for letting go of it. -/
def Command.offered (command : Command) (roster : Roster) (id : QueueId) (queue : Outbound) :
    Outbound :=
  match command with
  | .broadcast envelope =>
      if id ∈ (roster.membersOf envelope.room).map fun member => member.2.queue then
        (queue.offer envelope.payload).2
      else queue
  | _ => queue

/-- What a queue answers to a payload. -/
def Queues.answer (queues : Queues) (id : QueueId) (data : Bytes) : Offer :=
  (queues.offer id data).1

namespace Command

variable (answer : QueueId → Bytes → Offer) (client : ClientId) (seat : Option (String × Handle))

/-- Room and handle of a client after a command, from those before it and from what its queue
    answers. -/
def seated : Command → Option (String × Handle)
  | .join room handle => if handle.client = client then some (room, handle) else seat
  | .leave room leaver => if leaver = client then seat.filter fun (place, _) => place ≠ room else seat
  | .switch mover room => if mover = client then seat.map fun (_, handle) => (room, handle) else seat
  | .disconnect leaver => if leaver = client then none else seat
  | .broadcast envelope => seat.filter fun (place, handle) =>
      place ≠ envelope.room ∨ answer handle.queue envelope.payload = .delivered
  | .snapshot _ => seat

/-- The handle of a client that a command makes the hub let go of. -/
def dismissed : Command → Option Handle
  | .join _ handle => if handle.client = client then seat.map Prod.snd else none
  | .leave room leaver =>
      if leaver = client then (seat.filter fun (place, _) => place = room).map Prod.snd else none
  | .switch _ _ => none
  | .disconnect leaver => if leaver = client then seat.map Prod.snd else none
  | .broadcast envelope => (seat.filter fun (place, handle) =>
      place = envelope.room ∧ answer handle.queue envelope.payload ≠ .delivered).map Prod.snd
  | .snapshot _ => none

variable {answer client seat} {answer' : QueueId → Bytes → Offer}

/-- Only the queue of the client's handle is asked. -/
theorem seated_congr (command : Command) (same : ∀ room handle, seat = some (room, handle) →
    answer handle.queue = answer' handle.queue) :
    command.seated answer client seat = command.seated answer' client seat := by
  cases command with
  | broadcast envelope =>
      cases seat with
      | none => rfl
      | some seat => simp only [seated, Option.filter_some, same seat.1 seat.2 rfl]
  | _ => rfl

theorem dismissed_congr (command : Command) (same : ∀ room handle, seat = some (room, handle) →
    answer handle.queue = answer' handle.queue) :
    command.dismissed answer client seat = command.dismissed answer' client seat := by
  cases command with
  | broadcast envelope =>
      cases seat with
      | none => rfl
      | some seat => simp only [dismissed, Option.filter_some, same seat.1 seat.2 rfl]
  | _ => rfl

/-- What a client is relieved of is its handle. -/
theorem seat_of_dismissed {command : Command} {handle : Handle}
    (gone : command.dismissed answer client seat = some handle) :
    seat.map Prod.snd = some handle := by
  have filtered {kept : String × Handle → Bool} (some : (seat.filter kept).map Prod.snd = .some handle) :
      seat.map Prod.snd = .some handle := by
    obtain ⟨place, stored, rfl⟩ := Option.map_eq_some_iff.mp some
    rw [(Option.filter_eq_some_iff.mp stored).1, Option.map_some]
  cases command with
  | join room given =>
      simp only [dismissed, Option.ite_none_right_eq_some] at gone
      exact gone.2
  | leave room leaver =>
      simp only [dismissed, Option.ite_none_right_eq_some] at gone
      exact filtered gone.2
  | switch mover room => exact nomatch gone
  | disconnect leaver =>
      simp only [dismissed, Option.ite_none_right_eq_some] at gone
      exact gone.2
  | broadcast envelope => exact filtered gone
  | snapshot ticket => exact nomatch gone

/-- The handle of a client after a command came with the command, or was there before and the client
    was not relieved of it. -/
theorem handle_seated {command : Command} {handle : Handle} :
    (command.seated answer client seat).map Prod.snd = some handle ↔
      handle ∈ EventLoop.carried command ∧ handle.client = client ∨
      seat.map Prod.snd = some handle ∧ command.dismissed answer client seat ≠ some handle := by
  cases command with
  | join room given =>
      by_cases same : given.client = client
      · simp only [seated, dismissed, if_pos same, EventLoop.carried, List.mem_singleton,
          Option.map_some, Option.some.injEq, and_not_self_iff, or_false]
        grind
      · simp only [seated, dismissed, if_neg same, EventLoop.carried, List.mem_singleton]
        grind
  | switch mover room =>
      simp only [seated, dismissed, EventLoop.carried]
      split <;> simp
  | _ => cases seat <;> grind [seated, dismissed, EventLoop.carried]

end Command

/-- Room and handle that the registry has of a client. -/
def Registry.seat? (registry : Registry) (client : ClientId) : Option (String × Handle) :=
  (registry.roomOf? client).bind fun room => (registry.handleIn? room client).map fun handle =>
    (room, handle)

namespace Registry.Mirrors

theorem seat?_eq {registry : Registry} {roster : Roster} (mirrors : registry.Mirrors roster)
    (client : ClientId) : registry.seat? client = roster[client]? := by
  have index : registry.roomOf? client = roster.roomOf? client := mirrors.index client
  apply Option.ext
  rintro ⟨room, handle⟩
  simp only [seat?, index, Option.bind_eq_some_iff, Option.map_eq_some_iff, Prod.mk.injEq,
    mirrors.stored]
  constructor
  · rintro ⟨_, -, _, stored, rfl, rfl⟩
    exact stored
  · intro stored
    exact ⟨room, Roster.roomOf?_eq_some_iff.mpr ⟨handle, stored⟩, handle, stored, rfl, rfl⟩

variable {hub : Hub} {roster : Roster}

/-- Where a client is after a command depends on that client alone. -/
theorem getElem?_processing {registry : Registry} (mirrors : registry.Mirrors roster)
    (command : Command) (queues : Queues) (client : ClientId) :
    (roster.processing command queues)[client]? =
      command.seated queues.answer client roster[client]? := by
  cases command with
  | join room handle => exact roster.getElem?_put room handle client
  | leave room leaver =>
      simp only [Roster.processing, Command.call?, Roster.after, Command.seated]
      by_cases there : roster.roomOf? leaver = some room
      · obtain ⟨handle, stored⟩ := Roster.roomOf?_eq_some_iff.mp there
        simp only [if_pos there, Roster.getElem?_without, List.mem_singleton, eq_comm (a := client)]
        split
        · next same => simp [← same, stored, Option.filter_some]
        · rfl
      · simp only [if_neg there]
        split
        · next same =>
            subst same
            cases stored : roster[leaver]? with
            | none => rfl
            | some seat =>
                have other : seat.1 ≠ room := by simpa [Roster.roomOf?, stored] using there
                simp [other, Option.filter_some]
        · rfl
  | switch mover room =>
      simp only [Roster.processing, Command.call?, Roster.after, Roster.move, Command.seated]
      cases stored : roster[mover]? with
      | none =>
          by_cases same : mover = client
          · simp [← same, stored]
          · simp [same]
      | some seat =>
          by_cases same : mover = client
          · simp [Roster.getElem?_put, mirrors.own mover seat.1 seat.2 stored, ← same, stored]
          · simp [Roster.getElem?_put, mirrors.own mover seat.1 seat.2 stored, same]
  | disconnect leaver =>
      simp only [Roster.processing, Command.call?, Roster.after, Roster.getElem?_without,
        List.mem_singleton, eq_comm (a := client), Command.seated]
  | broadcast envelope =>
      apply Option.ext
      rintro ⟨place, handle⟩
      simp only [Roster.processing, Command.call?, Roster.after, Roster.getElem?_expel,
        Command.seated, Option.filter_eq_some_iff, Queues.answer]
      exact Iff.rfl.and decide_eq_true_iff.symm
  | snapshot ticket => rfl

/-- A step of the hub is a step of the roster. -/
theorem process (mirrors : hub.registry.Mirrors roster) (unshared : roster.Unshared)
    (fanout : Option Bool) (command : Command) (queues : Queues) :
    (hub.process fanout command queues).hub.registry.Mirrors
      (roster.processing command queues) := by
  cases command with
  | join room handle => exact (mirrors.perform unshared (.join room handle)).2
  | leave room client => exact (mirrors.perform unshared (.leave room client)).2
  | switch client room => exact (mirrors.perform unshared (.switch client room)).2
  | disconnect client => exact (mirrors.perform unshared (.disconnect client)).2
  | broadcast envelope =>
      exact (mirrors.perform unshared (.deliver envelope.room envelope.payload queues)).2
  | snapshot ticket => exact mirrors

/-- The handles that a command makes the hub let go of. -/
def Released (roster : Roster) (command : Command) (queues : Queues) (released : List Handle) : Prop :=
  ∀ handle, handle ∈ released ↔
    ∃ client, command.dismissed queues.answer client roster[client]? = some handle

/-- A command about one client lets go of at most the handle of that client. -/
theorem released_one {queues : Queues} {command : Command} (leaver : ClientId)
    (found : ClientId → Option Handle)
    (one : ∀ client, command.dismissed queues.answer client roster[client]? =
      if leaver = client then found client else none) :
    Released roster command queues (found leaver).toList := by
  intro handle
  simp [one]

/-- A step of the hub offers a broadcast to the members of its room, and otherwise only lets go of
    queues. -/
theorem process_queues (mirrors : hub.registry.Mirrors roster) (unshared : roster.Unshared)
    (fanout : Option Bool) (command : Command) (queues : Queues) :
    ∃ released, Released roster command queues released ∧ ∀ id,
      (hub.process fanout command queues).queues[id]? = queues[id]?.map fun queue =>
        let queue := command.offered roster id queue
        if id ∈ released.map Handle.queue then queue.release else queue := by
  cases command with
  | join room handle =>
      obtain ⟨joined, call, -⟩ := mirrors.join room handle
      refine ⟨_, released_one handle.client roster.handleOf? fun _ => rfl, fun id => ?_⟩
      simp only [Hub.process, Hub.handle, call]
      exact Queues.getElem?_release queues _ id
  | leave room client =>
      obtain ⟨left, after, call, -, -⟩ := mirrors.leave room client
      let found (other : ClientId) : Option Handle :=
        (roster[other]?.filter fun (place, _) => place = room).map Prod.snd
      have listed : (if roster.roomOf? client = some room then (roster.handleOf? client).toList
          else []) = (found client).toList := by
        unfold found
        cases stored : roster[client]? with
        | none => simp [Roster.roomOf?, stored]
        | some seat =>
            by_cases there : seat.1 = room
            · simp [Roster.roomOf?, Roster.handleOf?, stored, there, Option.filter_some]
            · simp [Roster.roomOf?, stored, there, Option.filter_some]
      refine ⟨_, released_one client found fun _ => rfl, fun id => ?_⟩
      simp only [Hub.process, Hub.handle, call, listed]
      exact Queues.getElem?_release queues _ id
  | switch client room =>
      obtain ⟨moved, call, -⟩ := mirrors.switch client room
      refine ⟨[], fun handle => by simp [Command.dismissed], fun id => ?_⟩
      simp only [Hub.process, Hub.handle, call]
      exact Queues.getElem?_release queues [] id
  | disconnect client =>
      obtain ⟨left, call, -⟩ := mirrors.disconnect client
      refine ⟨_, released_one client roster.handleOf? fun _ => rfl, fun id => ?_⟩
      simp only [Hub.process, Hub.handle, call]
      exact Queues.getElem?_release queues _ id
  | broadcast envelope =>
      obtain ⟨left, call, -⟩ := mirrors.deliver envelope.room envelope.payload queues
      let offers := offerEach envelope.payload (roster.membersOf envelope.room) queues
      refine ⟨offers.1.removed.filterMap roster.handleOf?, fun handle => ?_, fun id => ?_⟩
      · simp only [offers, List.mem_filterMap, mem_removed unshared, Command.dismissed,
          Option.map_eq_some_iff, Option.filter_eq_some_iff, decide_eq_true_eq, Prod.exists,
          Roster.handleOf?_eq_some_iff]
        refine exists_congr fun client => ⟨?_, ?_⟩
        · rintro ⟨⟨kept, stored, refused⟩, _, same⟩
          rw [stored] at same
          cases same
          exact ⟨_, _, ⟨stored, rfl, refused⟩, rfl⟩
        · rintro ⟨_, _, ⟨stored, rfl, refused⟩, rfl⟩
          exact ⟨⟨_, stored, refused⟩, _, stored⟩
      · simp only [Hub.process, Hub.handle, Hub.broadcast, call, Queues.getElem?_release,
          Command.offered, getElem?_offerEach envelope.payload queues
            (Roster.nodup_queues_membersOf unshared envelope.room)]
        by_cases member : id ∈ (roster.membersOf envelope.room).map fun member => member.2.queue
        · simp only [if_pos member, Option.map_map]
          rfl
        · simp only [if_neg member]
          rfl
  | snapshot ticket =>
      exact ⟨[], fun handle => by simp [Command.dismissed],
        fun id => by simp [Hub.process, Hub.handle, Command.offered]⟩

/-- A switch leaves the queues alone. -/
theorem queues_switch (mirrors : hub.registry.Mirrors roster) (fanout : Option Bool)
    (client : ClientId) (room : String) (queues : Queues) :
    (hub.process fanout (.switch client room) queues).queues = queues := by
  obtain ⟨moved, call, -⟩ := mirrors.switch client room
  simp only [Hub.process, Hub.handle, call]
  rfl

/-- A handle that is kept after a command was kept before it or came with it. -/
theorem handleOf?_processing {registry : Registry} (mirrors : registry.Mirrors roster)
    (command : Command) (queues : Queues) {client : ClientId} {handle : Handle}
    (kept : (roster.processing command queues).handleOf? client = some handle) :
    roster.handleOf? client = some handle ∨ handle ∈ EventLoop.carried command := by
  unfold Roster.processing at kept
  cases asked : command.call? queues with
  | none =>
      rw [asked] at kept
      exact .inl kept
  | some call =>
      rw [asked] at kept
      refine (mirrors.handleOf?_after call kept).imp id ?_
      rintro ⟨gives, -⟩
      cases command <;> cases asked <;> cases gives
      exact List.mem_singleton_self handle

theorem unshared_processing {registry : Registry} (mirrors : registry.Mirrors roster)
    (unshared : roster.Unshared) (command : Command) (queues : Queues)
    (new : ∀ given ∈ EventLoop.carried command, ∀ client handle,
      roster.handleOf? client = some handle → handle.queue ≠ given.queue) :
    (roster.processing command queues).Unshared := by
  unfold Roster.processing
  cases asked : command.call? queues with
  | none => exact unshared
  | some call =>
      refine mirrors.unshared_after unshared call fun given gives => new given ?_
      cases command <;> cases asked <;> cases gives
      exact List.mem_singleton_self given

end Registry.Mirrors
end ChatRelay
