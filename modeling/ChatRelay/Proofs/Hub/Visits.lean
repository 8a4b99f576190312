import ChatRelay.Proofs.Hub.Bounds

/-! # Deliveries in any order

A delivery visits the members of a room one after the other. No two of them share a queue, so it is
no matter in which order they are visited: the same members are removed, and the same queues take
the payload.
-/

namespace ChatRelay

namespace Outbound

/-- The consumer accepts payloads, and there is room for one more. -/
def hasRoom (queue : Outbound) : Bool :=
  queue.accepting && decide (queue.backlog.length < queue.bound)

/-- The consumer accepts payloads, and the queue holds its bound. -/
def isFull (queue : Outbound) : Bool :=
  queue.accepting && decide (queue.backlog.length = queue.bound)

/-- The consumer accepts nothing more. -/
def isClosed (queue : Outbound) : Bool := !queue.accepting

/-- Whether the queue is in the state in which it gives an answer. -/
def answers : Offer → Outbound → Bool
  | .delivered => hasRoom
  | .full => isFull
  | .closed => isClosed

/-- What a queue that keeps its bound does with a payload. -/
theorem Keeps.offer_cases {queue : Outbound} {size : Nat} (keeps : queue.Keeps size)
    (data : Bytes) :
    queue.hasRoom = true ∧ queue.isFull = false ∧ queue.isClosed = false ∧
        queue.offer data = (.delivered, { queue with backlog := queue.backlog ++ [data] }) ∨
      queue.hasRoom = false ∧ queue.isFull = true ∧ queue.isClosed = false ∧
        queue.offer data = (.full, queue) ∨
      queue.hasRoom = false ∧ queue.isFull = false ∧ queue.isClosed = true ∧
        queue.offer data = (.closed, queue) := by
  have within : queue.backlog.length ≤ queue.bound := keeps.bound ▸ keeps.within
  cases accepting : queue.accepting with
  | false => simp [hasRoom, isFull, isClosed, Outbound.offer, accepting]
  | true =>
      rcases Nat.lt_or_eq_of_le within with less | same
      · simp [hasRoom, isFull, isClosed, Outbound.offer, accepting, less, Nat.ne_of_lt less]
      · simp [hasRoom, isFull, isClosed, Outbound.offer, accepting, same]

end Outbound

namespace Registry

/-- The members of a room with their handles. -/
def membersIn (registry : Registry) (room : String) : List (ClientId × Handle) :=
  match registry.rooms[room]? with
  | some members => members.toList
  | none => []

/-- The members of a room whose queue is of some kind. -/
def membersWith (registry : Registry) (queues : Queues) (kind : Outbound → Bool) (room : String) :
    List ClientId :=
  ((registry.membersIn room).filter fun (_, handle) => queues[handle.queue]?.any kind).map Prod.fst

/-- A delivery that visits members in the order that is given. -/
def deliverAlong (registry : Registry) (visits : List (ClientId × Handle)) (room : String)
    (payload : Bytes) (queues : Queues) : DeliveryReport × List Handle × Registry × Queues :=
  match registry.rooms[room]? with
  | none => ({}, [], registry, queues)
  | some members =>
      let (report, queues) := offerEach payload visits queues
      let gone := report.removed
      let remaining := gone.foldl (fun members client => members.erase client) members
      let index := gone.foldl (fun index client => index.erase client) registry.index
      ({ report with roomClosed := remaining.isEmpty },
        gone.filterMap fun client => members[client]?,
        { rooms := registry.roomsWith room remaining, index },
        queues)

/-- Deliveries visit the members as the room lists them. -/
theorem deliver_eq_deliverAlong (registry : Registry) (room : String) (payload : Bytes)
    (queues : Queues) : registry.deliver room payload queues =
      registry.deliverAlong (registry.membersIn room) room payload queues := by
  unfold deliver deliverAlong membersIn
  cases registry.rooms[room]? <;> rfl

/-- Results of a delivery that differ at most in the order of what they list. -/
structure Alike (one other : DeliveryReport × List Handle × Registry × Queues) : Prop where
  delivered : one.1.delivered = other.1.delivered
  evicted : one.1.evicted.Perm other.1.evicted
  disconnected : one.1.disconnected.Perm other.1.disconnected
  roomClosed : one.1.roomClosed = other.1.roomClosed
  released : one.2.1.Perm other.2.1
  registry : one.2.2.1 = other.2.2.1
  queues : one.2.2.2 = other.2.2.2

/-- Offers to the same members in another order come to the same. -/
theorem offerEach_perm {visits members : List (ClientId × Handle)} (order : visits.Perm members)
    (distinct : (members.map fun member => member.2.queue).Nodup) (payload : Bytes)
    (queues : Queues) :
    let one := offerEach payload visits queues
    let other := offerEach payload members queues
    one.1.delivered = other.1.delivered ∧ one.1.evicted.Perm other.1.evicted ∧
      one.1.disconnected.Perm other.1.disconnected ∧ one.2 = other.2 := by
  have apart : (visits.map fun visit => visit.2.queue).Nodup :=
    (order.map _).nodup_iff.mpr distinct
  have answering (answer : Offer) := (order.filter fun (_, handle) =>
    (queues.offer handle.queue payload).1 = answer).map Prod.fst
  refine ⟨?_, ?_, ?_, ?_⟩
  · rw [report_offerEach payload queues apart, report_offerEach payload queues distinct]
    exact (answering .delivered).length_eq
  · rw [report_offerEach payload queues apart, report_offerEach payload queues distinct]
    exact answering .full
  · rw [report_offerEach payload queues apart, report_offerEach payload queues distinct]
    exact answering .closed
  · apply Std.ExtTreeMap.ext_getElem?
    intro id
    rw [getElem?_offerEach payload queues apart, getElem?_offerEach payload queues distinct]
    simp only [(order.map fun visit => visit.2.queue).mem_iff]

theorem foldl_erase_perm {β : Type} {gone gone' : List ClientId} (order : gone.Perm gone')
    (map : Std.ExtTreeMap ClientId β) :
    gone.foldl (fun map client => map.erase client) map =
      gone'.foldl (fun map client => map.erase client) map := by
  apply Std.ExtTreeMap.ext_getElem?
  intro client
  simp only [getElem?_foldl_erase, order.mem_iff]

/-- A delivery to the same members in another order comes to the same. -/
theorem deliverAlong_perm (registry : Registry) {visits members : List (ClientId × Handle)}
    (order : visits.Perm members) (distinct : (members.map fun member => member.2.queue).Nodup)
    (room : String) (payload : Bytes) (queues : Queues) :
    Alike (registry.deliverAlong visits room payload queues)
      (registry.deliverAlong members room payload queues) := by
  obtain ⟨delivered, evicted, disconnected, left⟩ := offerEach_perm order distinct payload queues
  have removed : (offerEach payload visits queues).1.removed.Perm
      (offerEach payload members queues).1.removed := evicted.append disconnected
  unfold deliverAlong
  cases registry.rooms[room]? with
  | none => exact ⟨rfl, .refl _, .refl _, rfl, .refl _, rfl, rfl⟩
  | some there =>
      refine ⟨delivered, evicted, disconnected, ?_, removed.filterMap _, ?_, left⟩
      · simp only [foldl_erase_perm removed]
      · simp only [foldl_erase_perm removed]

/-- What a delivery reports, and what it does to queues, is told by its offers. -/
theorem deliverAlong_offers (registry : Registry) {visits : List (ClientId × Handle)}
    {room : String} (order : visits.Perm (registry.membersIn room)) (payload : Bytes)
    (queues : Queues) :
    let offers := offerEach payload visits queues
    let outcome := registry.deliverAlong visits room payload queues
    outcome.1.delivered = offers.1.delivered ∧ outcome.1.evicted = offers.1.evicted ∧
      outcome.1.disconnected = offers.1.disconnected ∧ outcome.2.2.2 = offers.2 := by
  unfold deliverAlong
  cases found : registry.rooms[room]? with
  | none =>
      have nobody : visits = [] := by
        rw [membersIn, found] at order
        exact order.eq_nil
      subst nobody
      exact ⟨rfl, rfl, rfl, rfl⟩
  | some members => exact ⟨rfl, rfl, rfl, rfl⟩

theorem mem_released (registry : Registry) (visits : List (ClientId × Handle)) (room : String)
    (payload : Bytes) (queues : Queues) (handle : Handle) :
    let outcome := registry.deliverAlong visits room payload queues
    handle ∈ outcome.2.1 ↔
      ∃ client ∈ outcome.1.removed, registry.handleIn? room client = some handle := by
  unfold deliverAlong handleIn?
  cases registry.rooms[room]? with
  | none => simp
  | some members => exact List.mem_filterMap

theorem deliverAlong_absent {registry : Registry} {room : String} (absent : room ∉ registry.rooms)
    (visits : List (ClientId × Handle)) (payload : Bytes) (queues : Queues) :
    registry.deliverAlong visits room payload queues = ({}, [], registry, queues) := by
  simp only [deliverAlong, Std.ExtTreeMap.getElem?_eq_none absent]

theorem deliverAlong_elsewhere (registry : Registry) (visits : List (ClientId × Handle))
    {room place : String} (other : place ≠ room) (payload : Bytes) (queues : Queues) :
    (registry.deliverAlong visits room payload queues).2.2.1.rooms[place]? =
      registry.rooms[place]? := by
  unfold deliverAlong
  split
  · rfl
  · simp only [roomsWith]
    split
    · simp [Std.ExtTreeMap.getElem?_erase, Ne.symm other]
    · simp [Std.ExtTreeMap.getElem?_insert, Ne.symm other]

/-- One delivery, told by the registry and the queues before it. -/
structure Exact (registry : Registry) (queues : Queues) (room : String) (payload : Bytes)
    (visits : List (ClientId × Handle)) (report : DeliveryReport) (freed : List Handle)
    (after : Registry) (left : Queues) : Prop where
  /-- The queues are offered the payload at each visit, and at no other time. -/
  offered : left =
    visits.foldl (fun queues (_, handle) => (queues.offer handle.queue payload).2) queues
  /-- Each queue is visited once. -/
  once : (visits.map fun (_, handle) => handle.queue).Nodup
  /-- The payload is the last in the queues of members that had room, and nothing else changes. -/
  appended : ∀ id, left[id]? = queues[id]?.map fun queue =>
    if id ∈ (registry.membersIn room).map (fun (_, handle) => handle.queue) ∧ queue.hasRoom = true
    then { queue with backlog := queue.backlog ++ [payload] } else queue
  delivered : report.delivered = (registry.membersWith queues Outbound.hasRoom room).length
  evicted : report.evicted.Perm (registry.membersWith queues Outbound.isFull room)
  disconnected : report.disconnected.Perm (registry.membersWith queues Outbound.isClosed room)
  /-- Nobody is in two of the parts, or twice in one. -/
  distinct : (registry.membersWith queues Outbound.hasRoom room ++ report.evicted ++
    report.disconnected).Perm ((registry.membersIn room).map Prod.fst) ∧
    ((registry.membersIn room).map Prod.fst).Nodup
  total : report.delivered + report.evicted.length + report.disconnected.length =
    registry.members room
  released : ∀ handle, handle ∈ freed ↔
    ∃ client ∈ report.evicted ++ report.disconnected, registry.handleIn? room client = some handle
  index : ∀ client, after.index[client]? =
    if client ∈ report.evicted ++ report.disconnected then none else registry.index[client]?
  handles : ∀ place client, after.handleIn? place client =
    if client ∈ report.evicted ++ report.disconnected then none
    else registry.handleIn? place client
  others : ∀ place, place ≠ room → after.rooms[place]? = registry.rooms[place]?
  rooms : ∀ place, place ∈ after.rooms ↔ ∃ client, after.handleIn? place client ≠ none
  closed : report.roomClosed = true ↔
    room ∈ registry.rooms ∧ ∀ client, after.handleIn? room client = none
  absent : room ∉ registry.rooms → report = {} ∧ freed = [] ∧ after = registry ∧ left = queues

/-- Offering is offering at each visit. -/
theorem offerEach_queues (payload : Bytes) (visits : List (ClientId × Handle)) (queues : Queues) :
    (offerEach payload visits queues).2 =
      visits.foldl (fun queues (_, handle) => (queues.offer handle.queue payload).2) queues := by
  induction visits generalizing queues with
  | nil => rfl
  | cons visit visits ih => exact ih (queues.offer visit.2.queue payload).2

namespace Mirrors

variable {registry : Registry} {roster : Roster}

theorem membersIn_eq (mirrors : registry.Mirrors roster) (room : String) :
    registry.membersIn room = roster.membersOf room := by
  unfold membersIn
  cases found : registry.rooms[room]? with
  | none => rw [mirrors.membersOf_eq_nil found]
  | some members => exact mirrors.toList_members found

theorem length_membersIn (registry : Registry) (room : String) :
    (registry.membersIn room).length = registry.members room := by
  unfold membersIn members
  cases registry.rooms[room]? with
  | none => rfl
  | some members => exact Std.ExtTreeMap.length_toList

/-- The registry after a delivery, told by whom it removes. -/
theorem deliver_registry (mirrors : registry.Mirrors roster) (room : String) (payload : Bytes)
    (queues : Queues) :
    let report := (registry.deliver room payload queues).1
    let after := (registry.deliver room payload queues).2.2.1
    (∀ client, after.index[client]? =
      if client ∈ report.removed then none else registry.index[client]?) ∧
    (∀ place client, after.handleIn? place client =
      if client ∈ report.removed then none else registry.handleIn? place client) ∧
    (∀ place, place ∈ after.rooms ↔ ∃ client, after.handleIn? place client ≠ none) ∧
    (report.roomClosed = true ↔ room ∈ registry.rooms ∧ room ∉ after.rooms) := by
  obtain ⟨left, call, mirrored⟩ := mirrors.deliver room payload queues
  rw [call]
  refine ⟨fun client => ?_, fun place client => ?_, fun place => ?_, ?_⟩
  · rw [mirrored.index, Roster.roomOf?_without, ← mirrors.index]
    rfl
  · apply Option.ext
    intro handle
    rw [mirrored.stored, Roster.getElem?_without]
    change (if client ∈ (offerEach payload (roster.membersOf room) queues).1.removed then none
      else roster[client]?) = _ ↔ (if client ∈ (offerEach payload (roster.membersOf room)
        queues).1.removed then none else registry.handleIn? place client) = _
    split
    · exact ⟨nofun, nofun⟩
    · exact (mirrors.stored place client handle).symm
  · rw [mirrored.rooms]
    refine exists_congr fun client => ?_
    rw [Roster.roomOf?_eq_some_iff, Option.ne_none_iff_exists']
    exact exists_congr fun handle => (mirrored.stored place client handle).symm
  · simp only [Bool.and_eq_true, Bool.not_eq_true', ← mirrors.contains, ← mirrored.contains,
      Std.ExtTreeMap.contains_iff_mem, ← Bool.not_eq_true]

end Mirrors
end Registry

namespace World

variable {world : World} {roster : Roster} {moves : List WorldMove}

namespace Sound

/-- The queue of a member, and what it does with a payload. -/
theorem queue_of_member (sound : world.Sound roster) (sized : world.Sized moves) {room : String}
    {client : ClientId} {handle : Handle} (member : (client, handle) ∈ roster.membersOf room) :
    ∃ queue size, world.queues[handle.queue]? = some queue ∧ queue.Keeps size := by
  have kept := Roster.handleOf?_eq_some_iff.mpr ⟨room, Roster.mem_membersOf.mp member⟩
  obtain ⟨queue, found⟩ := Option.isSome_iff_exists.mp
    (Std.ExtTreeMap.mem_iff_isSome_getElem?.mp (sound.opened client handle kept))
  obtain ⟨capacity, -, keeps⟩ := sized.keeps found
  exact ⟨queue, _, found, keeps⟩

/-- Members that answer alike have queues in one state. -/
theorem answering_eq (sound : world.Sound roster) (sized : world.Sized moves) {room : String}
    (payload : Bytes) {visits : List (ClientId × Handle)}
    (order : visits.Perm (roster.membersOf room)) (answer : Offer) :
    (visits.filter fun (_, handle) => (world.queues.offer handle.queue payload).1 = answer) =
      visits.filter fun (_, handle) =>
        world.queues[handle.queue]?.any (Outbound.answers answer) := by
  refine List.filter_congr ?_
  rintro ⟨client, handle⟩ visited
  obtain ⟨queue, size, found, keeps⟩ :=
    sound.queue_of_member sized (order.mem_iff.mp visited)
  simp only [Queues.offer_fst found, found, Option.any_some]
  rcases keeps.offer_cases payload with
    ⟨room, full, closed, offer⟩ | ⟨room, full, closed, offer⟩ | ⟨room, full, closed, offer⟩ <;>
    cases answer <;> simp [Outbound.answers, room, full, closed, offer]

/-- What is reported of offers to all members of a room, in any order. -/
theorem report_visits (sound : world.Sound roster) (sized : world.Sized moves) {room : String}
    (payload : Bytes) {visits : List (ClientId × Handle)}
    (order : visits.Perm (roster.membersOf room)) :
    let report := (Registry.offerEach payload visits world.queues).1
    let kind (kind : Outbound → Bool) := world.loop.hub.registry.membersWith world.queues kind room
    report.delivered = (kind Outbound.hasRoom).length ∧
      report.evicted.Perm (kind Outbound.isFull) ∧
      report.disconnected.Perm (kind Outbound.isClosed) := by
  intro report kind
  have distinct : (visits.map fun visit => visit.2.queue).Nodup :=
    (order.map _).nodup_iff.mpr (Roster.nodup_queues_membersOf sound.unshared room)
  have part (answer : Offer) : ((visits.filter fun (_, handle) =>
      (world.queues.offer handle.queue payload).1 = answer).map Prod.fst).Perm
        (kind (Outbound.answers answer)) := by
    rw [sound.answering_eq sized payload order]
    simp only [kind, Registry.membersWith, sound.mirrors.membersIn_eq]
    exact (order.filter _).map _
  have told : report = _ := Registry.report_offerEach payload world.queues distinct
  rw [told]
  exact ⟨(part .delivered).length_eq, part .full, part .closed⟩

/-- A queue is in one of the three states. -/
theorem parts_perm (sound : world.Sound roster) (sized : world.Sized moves) (room : String) :
    let kind (kind : Outbound → Bool) := world.loop.hub.registry.membersWith world.queues kind room
    (kind Outbound.hasRoom ++ kind Outbound.isFull ++ kind Outbound.isClosed).Perm
      ((world.loop.hub.registry.membersIn room).map Prod.fst) := by
  intro kind
  let taken (member : ClientId × Handle) : Bool :=
    (world.queues.offer member.2.queue []).1 = .delivered
  let full (member : ClientId × Handle) : Bool := (world.queues.offer member.2.queue []).1 = .full
  let members := roster.membersOf room
  have closed : (members.filter (!taken ·)).filter (!full ·) = members.filter fun member =>
      (world.queues.offer member.2.queue []).1 = .closed := by
    rw [List.filter_filter]
    refine List.filter_congr fun member _ => ?_
    cases answer : (world.queues.offer member.2.queue []).1 <;> simp [taken, full, answer]
  have some : (members.filter (!taken ·)).filter full = members.filter full := by
    rw [List.filter_filter]
    refine List.filter_congr fun member _ => ?_
    cases answer : (world.queues.offer member.2.queue []).1 <;> simp [taken, full, answer]
  have rest := List.filter_append_perm full (members.filter (!taken ·))
  rw [closed, some] at rest
  have all := ((rest.append_left (members.filter taken)).trans
    (List.filter_append_perm taken members)).map Prod.fst
  have part (answer : Offer) : (members.filter fun member =>
      (world.queues.offer member.2.queue []).1 = answer).map Prod.fst =
        kind (Outbound.answers answer) := by
    simp only [kind, Registry.membersWith, sound.mirrors.membersIn_eq]
    exact congrArg (List.map Prod.fst) (sound.answering_eq sized [] (.refl members) answer)
  rw [← List.append_assoc, List.map_append, List.map_append] at all
  rw [sound.mirrors.membersIn_eq]
  exact part .delivered ▸ part .full ▸ part .closed ▸ all

/-- A delivery does what it has to, whatever the order of its visits. -/
theorem deliverAlong_exact (sound : world.Sound roster) (sized : world.Sized moves) (room : String)
    (payload : Bytes) {visits : List (ClientId × Handle)}
    (order : visits.Perm (world.loop.hub.registry.membersIn room)) :
    let outcome := world.loop.hub.registry.deliverAlong visits room payload world.queues
    Registry.Exact world.loop.hub.registry world.queues room payload visits outcome.1 outcome.2.1
      outcome.2.2.1 outcome.2.2.2 := by
  intro outcome
  have members := sound.mirrors.membersIn_eq room
  have order' : visits.Perm (roster.membersOf room) := members ▸ order
  have distinct := Roster.nodup_queues_membersOf sound.unshared room
  have apart : (visits.map fun visit => visit.2.queue).Nodup :=
    (order'.map _).nodup_iff.mpr distinct
  obtain ⟨taken, full, shut, queues⟩ := Registry.deliverAlong_offers _ order payload world.queues
  obtain ⟨delivered, evicted, disconnected⟩ := sound.report_visits sized payload order'
  rw [← taken] at delivered
  rw [← full] at evicted
  rw [← shut] at disconnected
  have alike : Registry.Alike outcome
      (world.loop.hub.registry.deliver room payload world.queues) := by
    rw [Registry.deliver_eq_deliverAlong]
    exact Registry.deliverAlong_perm _ order (members ▸ distinct) room payload world.queues
  obtain ⟨index, handles, rooms, closed⟩ :=
    sound.mirrors.deliver_registry room payload world.queues
  simp only [← (alike.evicted.append alike.disconnected).mem_iff, DeliveryReport.removed,
    ← alike.registry, ← alike.roomClosed] at index handles rooms closed
  have parts := sound.parts_perm sized room
  have split : (world.loop.hub.registry.membersWith world.queues Outbound.hasRoom room ++
      outcome.1.evicted ++ outcome.1.disconnected).Perm
      ((world.loop.hub.registry.membersIn room).map Prod.fst) :=
    (((List.Perm.refl _).append evicted).append disconnected).trans parts
  constructor
  · exact queues.trans (Registry.offerEach_queues payload visits world.queues)
  · exact apart
  · intro id
    rw [show outcome.2.2.2 = _ from queues,
      Registry.getElem?_offerEach payload world.queues apart]
    simp only [(order.map fun visit => visit.2.queue).mem_iff]
    cases found : world.queues[id]? with
    | none => simp
    | some queue =>
        obtain ⟨capacity, -, keeps⟩ := sized.keeps found
        simp only [Option.map_some, ← apply_ite some]
        congr 1
        rcases keeps.offer_cases payload with
          ⟨fits, -, -, offer⟩ | ⟨fits, -, -, offer⟩ | ⟨fits, -, -, offer⟩
        · exact if_congr (by simp [fits]) (by rw [offer]) rfl
        · rw [offer, ite_self, if_neg (by simp [fits])]
        · rw [offer, ite_self, if_neg (by simp [fits])]
  · exact delivered
  · exact evicted
  · exact disconnected
  · exact ⟨split, members ▸ roster.nodup_membersOf room⟩
  · have length := split.length_eq
    rw [List.length_append, List.length_append, ← delivered, List.length_map,
      Registry.Mirrors.length_membersIn] at length
    exact length
  · exact Registry.mem_released _ visits room payload world.queues
  · exact index
  · exact handles
  · exact fun place other => Registry.deliverAlong_elsewhere _ visits other payload world.queues
  · exact rooms
  · rw [closed, rooms]
    simp
  · intro absent
    have nothing := Registry.deliverAlong_absent absent visits payload world.queues
    simp only [outcome, nothing, and_self]

end Sound

/-- What deliveries do in any state that a registry and its queues get into. -/
theorem deliveries_are_exact (capacity : Nat) (moves : List WorldMove) (room : String)
    (payload : Bytes) {visits : List (ClientId × Handle)}
    (order : visits.Perm (((start capacity).run moves).loop.hub.registry.membersIn room)) :
    let world := (start capacity).run moves
    let registry := world.loop.hub.registry
    let outcome := registry.deliverAlong visits room payload world.queues
    Registry.Exact registry world.queues room payload visits outcome.1 outcome.2.1 outcome.2.2.1
        outcome.2.2.2 ∧
      Registry.Alike outcome (registry.deliver room payload world.queues) ∧
      ∀ id queue, world.queues[id]? = some queue →
        ∃ capacity, capacity? id moves = some capacity ∧ queue.Keeps (max capacity 1) := by
  intro world registry outcome
  obtain ⟨roster, sound, -⟩ := (Sound.start capacity).run moves
  have sized : world.Sized moves := (Sized.start capacity).run (.start capacity) moves
  have members := sound.mirrors.membersIn_eq room
  refine ⟨sound.deliverAlong_exact sized room payload order, ?_, fun id queue => sized.keeps⟩
  rw [Registry.deliver_eq_deliverAlong]
  exact Registry.deliverAlong_perm _ order
    (members ▸ Roster.nodup_queues_membersOf sound.unshared room) room payload world.queues

/-- Of three members the last one visited has room; before it come one whose queue is full and one
    that is gone. -/
theorem deliveries_are_exact_mixed :
    let handles : List Handle := [⟨1, 1⟩, ⟨2, 2⟩, ⟨3, 3⟩]
    let moves := handles.flatMap (fun handle =>
        [.connect handle 0, .submit (.join "a" handle), .advance none]) ++
      [.submit (.broadcast ⟨"a", [1], .here⟩), .advance none, .receive 1, .close 3]
    let world := (start 4).run moves
    let registry := world.loop.hub.registry
    let visits := [(3, ⟨3, 3⟩), (2, ⟨2, 2⟩), (1, ⟨1, 1⟩)]
    let outcome := registry.deliverAlong visits "a" [2] world.queues
    visits.Perm (registry.membersIn "a") ∧
      Registry.Exact registry world.queues "a" [2] visits outcome.1 outcome.2.1 outcome.2.2.1
        outcome.2.2.2 ∧
      outcome.1 = { delivered := 1, evicted := [2], disconnected := [3] } := by
  intro handles moves world registry visits outcome
  have order : visits.Perm (registry.membersIn "a") := by decide +kernel
  exact ⟨order, (deliveries_are_exact 4 moves "a" [2] order).1, by decide +kernel⟩

end World
end ChatRelay
