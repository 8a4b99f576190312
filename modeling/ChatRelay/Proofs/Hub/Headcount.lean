import ChatRelay.Proofs.Hub.Traffic
import ChatRelay.Proofs.Presence.Changes

/-! # Counting clients and payloads

How many clients come and go in a step, and how many payloads the hub appends to queues. All of it
is read off the worlds before and after the step.
-/

namespace ChatRelay

theorem length_exchange {α : Type} [DecidableEq α] {before after : List α} (nodup : before.Nodup)
    (nodup' : after.Nodup) :
    after.length + (before.filter (· ∉ after)).length =
      before.length + (after.filter (· ∉ before)).length := by
  have kept : (before.filter (· ∈ after)).Perm (after.filter (· ∈ before)) := by
    refine (List.perm_ext_iff_of_nodup (nodup.filter _) (nodup'.filter _)).mpr fun item => ?_
    simp [and_comm]
  have parts (list other : List α) :
      list.length = (list.filter (· ∈ other)).length + (list.filter (· ∉ other)).length := by
    simpa using List.length_eq_length_filter_add (l := list) fun item => decide (item ∈ other)
  have before' := parts before after
  have after' := parts after before
  have same := kept.length_eq
  omega

namespace World

/-- The registered clients. -/
def registered (world : World) : List ClientId := world.loop.hub.registry.index.keys

/-- Clients that are not registered any more after a step. -/
def lost (world : World) (move : WorldMove) : List ClientId :=
  world.registered.filter (· ∉ (world.step move).registered)

/-- Whether the queue of a registered client accepts payloads, but has no room. -/
def full (world : World) (client : ClientId) : Bool :=
  match world.loop.hub.registry.seat? client with
  | some (_, handle) =>
      match world.queues[handle.queue]? with
      | some queue => queue.accepting && decide (queue.bound ≤ queue.backlog.length)
      | none => false
  | none => false

/-- Whether the queue of a registered client accepts nothing more. -/
def shut (world : World) (client : ClientId) : Bool :=
  match world.loop.hub.registry.seat? client with
  | some (_, handle) =>
      match world.queues[handle.queue]? with
      | some queue => !queue.accepting
      | none => true
  | none => false

/-- Clients that a request to join has registered anew. -/
def joined (world : World) (move : WorldMove) : List ClientId :=
  match world.processing? move with
  | some (.join _ _) => (world.step move).registered.filter (· ∉ world.registered)
  | _ => []

/-- Clients that a request to leave or to disconnect has taken out. -/
def parted (world : World) (move : WorldMove) : List ClientId :=
  match world.processing? move with
  | some (.leave _ _) | some (.disconnect _) => world.lost move
  | _ => []

/-- Clients that a broadcast has taken out because their queue is full. -/
def evicted (world : World) (move : WorldMove) : List ClientId :=
  match world.processing? move with
  | some (.broadcast _) => (world.lost move).filter world.full
  | _ => []

/-- Clients that a broadcast has taken out because their queue is closed. -/
def dropped (world : World) (move : WorldMove) : List ClientId :=
  match world.processing? move with
  | some (.broadcast _) => (world.lost move).filter world.shut
  | _ => []

/-- Number of payloads that the hub appends to queues in a step. -/
def appends (world : World) (move : WorldMove) : Nat :=
  ((world.step move).queues.keys.map fun queue => (world.appended queue move).length).sum

namespace Sound

variable {world : World} {roster : Roster}

theorem nodup_registered (world : World) : world.registered.Nodup := Std.ExtTreeMap.nodup_keys

theorem nodup_lost (world : World) (move : WorldMove) : (world.lost move).Nodup :=
  (nodup_registered world).filter _

theorem mem_registered (sound : world.Sound roster) {client : ClientId} :
    client ∈ world.registered ↔ (roster[client]?).isSome = true := by
  rw [registered, Std.ExtTreeMap.mem_keys, Std.ExtTreeMap.mem_iff_isSome_getElem?,
    sound.mirrors.index, Roster.roomOf?, Option.isSome_map]

/-- Who is registered after a command. -/
theorem mem_registered_step (sound : world.Sound roster) {move : WorldMove} {command : Command}
    (processed : world.processing? move = some command) {client : ClientId} :
    client ∈ (world.step move).registered ↔
      (command.seated world.queues.answer client roster[client]?).isSome = true := by
  rw [(sound.step_processing processed).mem_registered, sound.mirrors.getElem?_processing]

/-- What the queue of a registered client answers. -/
theorem answer_eq (sound : world.Sound roster) {client : ClientId} {room : String} {handle : Handle}
    (seated : roster[client]? = some (room, handle)) (payload : Bytes) :
    (world.queues.answer handle.queue payload = .full ↔ world.full client = true) ∧
      (world.queues.answer handle.queue payload = .closed ↔ world.shut client = true) := by
  simp only [full, shut, sound.mirrors.seat?_eq, seated, Queues.answer, Queues.offer]
  cases world.queues[handle.queue]? with
  | none => simp
  | some queue =>
      simp only [Outbound.offer]
      cases queue.accepting with
      | false => simp
      | true => by_cases room : queue.bound ≤ queue.backlog.length <;> simp [room]

/-- What a broadcast takes out are the members of its room whose queue refuses it. -/
theorem mem_lost_broadcast (sound : world.Sound roster) {move : WorldMove} {envelope : Envelope}
    (processed : world.processing? move = some (.broadcast envelope)) {client : ClientId} :
    client ∈ world.lost move ↔ ∃ handle, roster[client]? = some (envelope.room, handle) ∧
      world.queues.answer handle.queue envelope.payload ≠ .delivered := by
  rw [lost, List.mem_filter, decide_eq_true_eq, sound.mem_registered,
    sound.mem_registered_step processed]
  cases roster[client]? with
  | none => simp
  | some seat =>
      obtain ⟨room, handle⟩ := seat
      simp only [Command.seated, Option.filter_some, Option.isSome_some, true_and,
        Option.some.injEq, Prod.mk.injEq]
      by_cases here : room = envelope.room
      · by_cases taken : world.queues.answer handle.queue envelope.payload = .delivered <;>
          simp [here, taken]
      · simp [here]

/-- A queue is not full and closed at once, and one that refuses a payload is either. -/
theorem length_lost_broadcast (sound : world.Sound roster) {move : WorldMove} {envelope : Envelope}
    (processed : world.processing? move = some (.broadcast envelope)) :
    (world.lost move).length = (world.evicted move).length + (world.dropped move).length := by
  have shut : (world.lost move).filter world.shut = (world.lost move).filter (!world.full ·) := by
    refine List.filter_congr fun client gone => ?_
    obtain ⟨handle, seated, refused⟩ := (sound.mem_lost_broadcast processed).mp gone
    obtain ⟨full, closed⟩ := sound.answer_eq seated envelope.payload
    cases answer : world.queues.answer handle.queue envelope.payload with
    | delivered => exact absurd answer refused
    | full => simp_all
    | closed => simp_all
  simp only [evicted, dropped, processed, shut]
  exact List.length_eq_length_filter_add _

/-- The clients after a command are those before it with whoever has come, but for whoever has
    gone. -/
theorem length_registered (sound : world.Sound roster) {move : WorldMove} {command : Command}
    (processed : world.processing? move = some command) :
    (world.step move).registered.length + (world.parted move).length +
        (world.evicted move).length + (world.dropped move).length =
      world.registered.length + (world.joined move).length := by
  have exchange := length_exchange (nodup_registered world) (nodup_registered (world.step move))
  have nobody_new (stays : ∀ client, (command.seated world.queues.answer client roster[client]?).isSome →
      (roster[client]?).isSome) : (world.step move).registered.filter (· ∉ world.registered) = [] := by
    refine List.filter_eq_nil_iff.mpr fun client there => ?_
    have here := stays client ((sound.mem_registered_step processed).mp there)
    simpa using sound.mem_registered.mpr here
  have nobody_lost (stays : ∀ client, (roster[client]?).isSome →
      (command.seated world.queues.answer client roster[client]?).isSome) : world.lost move = [] := by
    refine List.filter_eq_nil_iff.mpr fun client here => ?_
    have there := stays client (sound.mem_registered.mp here)
    simpa using (sound.mem_registered_step processed).mpr there
  change (world.step move).registered.length + (world.lost move).length = _ at exchange
  cases command with
  | join room handle =>
      have stays : world.lost move = [] := nobody_lost fun client here => by
        simp only [Command.seated]
        split
        · rfl
        · exact here
      rw [stays, List.length_nil] at exchange
      simp only [joined, parted, evicted, dropped, processed, List.length_nil]
      omega
  | switch mover room =>
      have same (client : ClientId) :
          ((Command.switch mover room).seated world.queues.answer client roster[client]?).isSome =
            (roster[client]?).isSome := by
        simp only [Command.seated]
        split <;> simp
      have gained := nobody_new fun client there => by rwa [same] at there
      have stays := nobody_lost fun client here => by rwa [same]
      rw [gained, stays, List.length_nil] at exchange
      simp only [joined, parted, evicted, dropped, processed, List.length_nil]
      omega
  | snapshot ticket =>
      have gained := nobody_new fun client there => there
      have stays := nobody_lost fun client here => here
      rw [gained, stays, List.length_nil] at exchange
      simp only [joined, parted, evicted, dropped, processed, List.length_nil]
      omega
  | leave room leaver =>
      have gained := nobody_new fun client there => by
        simp only [Command.seated] at there
        split at there
        · exact Option.isSome_of_isSome_filter _ _ there
        · exact there
      rw [gained, List.length_nil] at exchange
      simp only [joined, parted, evicted, dropped, processed, List.length_nil]
      omega
  | disconnect leaver =>
      have gained := nobody_new fun client there => by
        simp only [Command.seated] at there
        split at there
        · cases there
        · exact there
      rw [gained, List.length_nil] at exchange
      simp only [joined, parted, evicted, dropped, processed, List.length_nil]
      omega
  | broadcast envelope =>
      have gained := nobody_new fun client there => Option.isSome_of_isSome_filter _ _ there
      have parts := sound.length_lost_broadcast processed
      rw [gained, List.length_nil, parts] at exchange
      simp only [joined, parted, processed, List.length_nil]
      omega

/-- What a delivery reports, told by the roster. -/
theorem report_deliver (sound : world.Sound roster) (room : String) (payload : Bytes) :
    (world.loop.hub.registry.deliver room payload world.queues).1.delivered =
        (roster.answering room payload world.queues .delivered).length ∧
      (world.loop.hub.registry.deliver room payload world.queues).1.evicted =
        roster.answering room payload world.queues .full := by
  have told := (sound.mirrors.deliver_unshared sound.unshared room payload world.queues).1
  simp only [Registry.perform, Roster.answer, RegistryAnswer.delivered.injEq] at told
  exact ⟨by rw [told], by rw [told]⟩

theorem nodup_answering (roster : Roster) (room : String) (payload : Bytes) (queues : Queues)
    (answer : Offer) : (roster.answering room payload queues answer).Nodup :=
  (roster.nodup_membersOf room).sublist (List.filter_sublist.map _)

/-- The evictions that a delivery reports are the clients that it takes out because their queue is
    full. -/
theorem length_evicted (sound : world.Sound roster) {move : WorldMove} {envelope : Envelope}
    (processed : world.processing? move = some (.broadcast envelope)) :
    (world.loop.hub.registry.deliver envelope.room envelope.payload world.queues).1.evicted.length =
      (world.evicted move).length := by
  rw [(sound.report_deliver envelope.room envelope.payload).2]
  simp only [evicted, processed]
  refine ((List.perm_ext_iff_of_nodup (nodup_answering ..)
    ((nodup_lost world move).filter _)).mpr fun client => ?_).length_eq
  rw [Roster.mem_answering, List.mem_filter, sound.mem_lost_broadcast processed]
  constructor
  · rintro ⟨handle, seated, full⟩
    refine ⟨⟨handle, seated, ?_⟩, (sound.answer_eq seated envelope.payload).1.mp full⟩
    simp [Queues.answer, full]
  · rintro ⟨⟨handle, seated, -⟩, full⟩
    exact ⟨handle, seated, (sound.answer_eq seated envelope.payload).1.mpr full⟩

/-- The queues that take a payload. -/
def takers (roster : Roster) (room : String) (payload : Bytes) (queues : Queues) : List QueueId :=
  ((roster.membersOf room).filter fun member =>
    (queues.offer member.2.queue payload).1 = .delivered).map fun member => member.2.queue

theorem mem_takers {room : String} {payload : Bytes} {queues : Queues} {id : QueueId} :
    id ∈ takers roster room payload queues ↔
      id ∈ ((roster.membersOf room).map fun member => member.2.queue) ∧
        (queues.offer id payload).1 = .delivered := by
  simp only [takers, List.mem_map, List.mem_filter, decide_eq_true_eq]
  constructor
  · rintro ⟨member, ⟨listed, taken⟩, rfl⟩
    exact ⟨⟨member, listed, rfl⟩, taken⟩
  · rintro ⟨⟨member, listed, rfl⟩, taken⟩
    exact ⟨member, ⟨listed, taken⟩, rfl⟩

/-- One payload is appended to every queue that takes it. -/
theorem length_appended_broadcast (sound : world.Sound roster) {move : WorldMove}
    {envelope : Envelope} (processed : world.processing? move = some (.broadcast envelope))
    (id : QueueId) : (world.appended id move).length =
      if id ∈ takers roster envelope.room envelope.payload world.queues then 1 else 0 := by
  cases found : world.queues[id]? with
  | none =>
      have absent : id ∉ takers roster envelope.room envelope.payload world.queues := by
        simp [mem_takers, Queues.offer, found]
      obtain ⟨fanout, rest, rfl, -, -⟩ := processing?_eq_some processed
      rw [if_neg absent, appended, sound.backlog_step_of_absent _ found]
      simp
  | some queue =>
      rw [sound.appended_eq move found, processed]
      simp only [Command.taken, mem_takers, Queues.offer_fst found]
      split <;> rfl

theorem sum_indicator {α : Type} [DecidableEq α] (list other : List α) :
    (list.map fun item => if item ∈ other then 1 else 0).sum =
      (list.filter (· ∈ other)).length := by
  induction list with
  | nil => rfl
  | cons item list ih =>
      rw [List.map_cons, List.sum_cons, ih, List.filter_cons]
      by_cases listed : item ∈ other
      · simp [listed]
        omega
      · simp [listed]

/-- The deliveries that a delivery reports are the payloads that it appends. -/
theorem appends_broadcast (sound : world.Sound roster) {move : WorldMove} {envelope : Envelope}
    (processed : world.processing? move = some (.broadcast envelope)) :
    world.appends move =
      (world.loop.hub.registry.deliver envelope.room envelope.payload world.queues).1.delivered := by
  have nodup : (takers roster envelope.room envelope.payload world.queues).Nodup :=
    (Roster.nodup_queues_membersOf sound.unshared envelope.room).sublist (List.filter_sublist.map _)
  have inside : ∀ id ∈ takers roster envelope.room envelope.payload world.queues,
      id ∈ (world.step move).queues := by
    intro id taking
    have taken := (mem_takers.mp taking).2
    cases found : world.queues[id]? with
    | none => simp [Queues.offer, found] at taken
    | some queue =>
        obtain ⟨after, found', -⟩ := sound.queue_step move found
        exact Std.ExtTreeMap.mem_iff_isSome_getElem?.mpr (by simp [found'])
  rw [(sound.report_deliver envelope.room envelope.payload).1, appends]
  simp only [sound.length_appended_broadcast processed, sum_indicator]
  have same : ((world.step move).queues.keys.filter
      (· ∈ takers roster envelope.room envelope.payload world.queues)).Perm
      (takers roster envelope.room envelope.payload world.queues) := by
    refine (List.perm_ext_iff_of_nodup (Std.ExtTreeMap.nodup_keys.filter _) nodup).mpr fun id => ?_
    rw [List.mem_filter, decide_eq_true_eq, Std.ExtTreeMap.mem_keys]
    exact ⟨fun both => both.2, fun taking => ⟨inside id taking, taking⟩⟩
  rw [same.length_eq]
  simp [takers, Roster.answering]

theorem appends_other (sound : world.Sound roster) {move : WorldMove}
    (other : ∀ envelope, world.processing? move ≠ some (.broadcast envelope)) :
    world.appends move = 0 := by
  refine List.sum_eq_zero fun count listed => ?_
  obtain ⟨id, -, rfl⟩ := List.mem_map.mp listed
  rw [List.length_eq_zero_iff]
  cases found : world.queues[id]? with
  | none =>
      have after := sound.backlog_step_of_absent move found
      cases move with
      | advance | stop => simp [appended, after]
      | _ => rfl
  | some queue =>
      rw [sound.appended_eq move found]
      cases processed : world.processing? move with
      | none => rfl
      | some command =>
          cases command with
          | broadcast envelope => exact absurd processed (other envelope)
          | _ => rfl

end Sound
end World

namespace Registry.Mirrors

variable {registry : Registry} {roster : Roster}

/-- Every registered client is in one room. -/
theorem length_handles (mirrors : registry.Mirrors roster) (unshared : roster.Unshared) :
    registry.handles.length = registry.clientCount := by
  have queues := mirrors.nodup_handles unshared
  have nodup : (registry.handles.map Handle.client).Nodup := by
    refine (List.nodup_map_iff_inj_on (List.Nodup.of_map _ queues)).mpr ?_
    intro handle listed other listed' same
    obtain ⟨client, kept⟩ := mirrors.mem_handles.mp listed
    obtain ⟨client', kept'⟩ := mirrors.mem_handles.mp listed'
    obtain ⟨room, stored⟩ := Roster.handleOf?_eq_some_iff.mp kept
    obtain ⟨room', stored'⟩ := Roster.handleOf?_eq_some_iff.mp kept'
    obtain rfl := mirrors.own _ _ _ stored
    obtain rfl := mirrors.own _ _ _ stored'
    rw [same, stored'] at stored
    cases stored
    rfl
  have perm : (registry.handles.map Handle.client).Perm registry.index.keys := by
    refine (List.perm_ext_iff_of_nodup nodup Std.ExtTreeMap.nodup_keys).mpr fun client => ?_
    rw [Std.ExtTreeMap.mem_keys, Std.ExtTreeMap.mem_iff_isSome_getElem?, mirrors.index,
      List.mem_map]
    constructor
    · rintro ⟨handle, listed, rfl⟩
      obtain ⟨client, kept⟩ := mirrors.mem_handles.mp listed
      obtain ⟨room, stored⟩ := Roster.handleOf?_eq_some_iff.mp kept
      rw [mirrors.own _ _ _ stored, Roster.roomOf?, stored]
      rfl
    · intro present
      obtain ⟨room, placed⟩ := Option.isSome_iff_exists.mp present
      obtain ⟨handle, stored⟩ := Roster.roomOf?_eq_some_iff.mp placed
      exact ⟨handle, mirrors.mem_handles.mpr ⟨client, Roster.handleOf?_eq_some_iff.mpr ⟨room, stored⟩⟩,
        mirrors.own _ _ _ stored⟩
  have lengths := perm.length_eq
  rwa [List.length_map, Std.ExtTreeMap.length_keys] at lengths

/-- A snapshot lists rooms with members, and all of the clients are in them. -/
theorem snapshot_exact (mirrors : registry.Mirrors roster) (unshared : roster.Unshared) :
    (registry.snapshot.rooms.map Prod.snd).sum = registry.clientCount ∧
      (registry.snapshot.rooms.filter fun room => 0 < room.2).length = registry.roomCount := by
  constructor
  · rw [← mirrors.length_handles unshared, handles, List.length_flatMap, snapshot, List.map_map]
    refine congrArg List.sum (List.map_congr_left fun room _ => ?_)
    simp
  · have populated : registry.snapshot.rooms.filter (fun room => 0 < room.2) =
        registry.snapshot.rooms := by
      refine List.filter_eq_self.mpr fun room listed => ?_
      obtain ⟨some, same⟩ := mirrors.mem_snapshot.mp listed
      simpa [same] using some
    rw [populated, snapshot, List.length_map, Std.ExtTreeMap.length_toList]
    rfl

end Registry.Mirrors
end ChatRelay
