import ChatRelay.Proofs.Hub.Roster
import Mathlib.Data.List.Nodup

/-! # Delivering to a room

A delivery offers the payload to the members of a room one after the other and then takes those out
whose queue refused it. As long as no two members share a queue, every queue answers as if it were
asked alone, so what a delivery does is told by the roster and the queues before it.
-/

namespace ChatRelay

/-- A list that ascends by some key is told by its elements. -/
theorem eq_of_ascending {α β : Type} [Ord β] [Std.OrientedOrd β] {list list' : List α} (key : α → β)
    (ascending : list.Pairwise fun a b => compare (key a) (key b) = .lt)
    (ascending' : list'.Pairwise fun a b => compare (key a) (key b) = .lt)
    (same : ∀ item, item ∈ list ↔ item ∈ list') : list = list' := by
  have nodup : ∀ {items : List α},
      (items.Pairwise fun a b => compare (key a) (key b) = .lt) → items.Nodup := by
    intro items ordered
    refine ordered.imp ?_
    rintro a _ before rfl
    rw [Std.ReflOrd.compare_self] at before
    exact nomatch before
  apply List.Perm.eq_of_pairwise ?_ ascending ascending'
  · exact (List.perm_ext_iff_of_nodup (nodup ascending) (nodup ascending')).mpr same
  · intro a b _ _ before after
    rw [Std.OrientedOrd.eq_swap, after] at before
    exact nomatch before

namespace Queues

theorem getElem?_update (queues : Queues) (id other : QueueId) (change : Outbound → Outbound) :
    (queues.update id change)[other]? =
      if id = other then queues[other]?.map change else queues[other]? := by
  unfold update
  cases found : queues[id]? with
  | none =>
      dsimp only
      split
      · next same => simp [← same, found]
      · rfl
  | some queue =>
      simp only [Std.ExtTreeMap.getElem?_insert, Std.LawfulEqCmp.compare_eq_iff_eq]
      split
      · next same => simp [← same, found]
      · rfl

theorem offer_snd (queues : Queues) (id : QueueId) (data : Bytes) :
    (queues.offer id data).2 = queues.update id fun queue => (queue.offer data).2 := by
  unfold offer update
  split <;> rfl

theorem receive_snd (queues : Queues) (id : QueueId) :
    (queues.receive id).2 = queues.update id fun queue => queue.receive.2 := by
  unfold receive update
  split <;> rfl

theorem getElem?_release (queues : Queues) (handles : List Handle) (id : QueueId) :
    (queues.release handles)[id]? = queues[id]?.map fun queue =>
      if id ∈ handles.map Handle.queue then queue.release else queue := by
  unfold release
  induction handles generalizing queues with
  | nil => simp
  | cons handle handles ih =>
      simp only [List.foldl_cons, ih, getElem?_update, List.map_cons, List.mem_cons]
      by_cases first : handle.queue = id
      · subst first
        cases queues[handle.queue]? <;> simp [Outbound.release]
      · simp [first, Ne.symm first]

theorem getElem?_offer (queues : Queues) (id other : QueueId) (data : Bytes) :
    (queues.offer id data).2[other]? =
      if id = other then queues[other]?.map fun queue => (queue.offer data).2
      else queues[other]? := by
  rw [offer_snd, getElem?_update]

/-- What a queue answers depends on that queue alone. -/
theorem offer_congr {queues others : Queues} {id : QueueId} (data : Bytes)
    (same : queues[id]? = others[id]?) : (queues.offer id data).1 = (others.offer id data).1 := by
  unfold offer
  rw [same]
  split <;> rfl

theorem mem_update {queues : Queues} {id other : QueueId} {change : Outbound → Outbound} :
    other ∈ queues.update id change ↔ other ∈ queues := by
  simp only [Std.ExtTreeMap.mem_iff_isSome_getElem?, getElem?_update]
  split <;> simp

theorem mem_release {queues : Queues} {handles : List Handle} {id : QueueId} :
    id ∈ queues.release handles ↔ id ∈ queues := by
  simp only [Std.ExtTreeMap.mem_iff_isSome_getElem?, getElem?_release, Option.isSome_map]

end Queues

namespace Roster

/-- The members of a room with their handles, ascending. -/
def membersOf (roster : Roster) (room : String) : List (ClientId × Handle) :=
  roster.toList.filterMap fun (client, place, handle) =>
    if place = room then some (client, handle) else none

/-- The members of a room whose queue gives a certain answer to a payload, ascending. -/
def answering (roster : Roster) (room : String) (payload : Bytes) (queues : Queues)
    (answer : Offer) : List ClientId :=
  ((roster.membersOf room).filter fun (_, handle) =>
    (queues.offer handle.queue payload).1 = answer).map Prod.fst

/-- No two clients have handles of one queue. -/
def Unshared (roster : Roster) : Prop :=
  ∀ client other (handle handle' : Handle), roster.handleOf? client = some handle →
    roster.handleOf? other = some handle' → handle.queue = handle'.queue → client = other

theorem mem_membersOf {roster : Roster} {room : String} {client : ClientId} {handle : Handle} :
    (client, handle) ∈ roster.membersOf room ↔ roster[client]? = some (room, handle) := by
  simp only [membersOf, List.mem_filterMap, Prod.exists,
    Std.ExtTreeMap.mem_toList_iff_getElem?_eq_some, Option.ite_none_right_eq_some,
    Option.some.injEq, Prod.mk.injEq]
  constructor
  · rintro ⟨_, _, _, stored, rfl, rfl, rfl⟩
    exact stored
  · intro stored
    exact ⟨client, room, handle, stored, rfl, rfl, rfl⟩

theorem ordered_membersOf (roster : Roster) (room : String) :
    (roster.membersOf room).Pairwise fun a b => compare a.1 b.1 = .lt := by
  rw [membersOf, List.pairwise_filterMap]
  refine Std.ExtTreeMap.ordered_keys_toList.imp ?_
  rintro ⟨client, place, handle⟩ ⟨other, place', handle'⟩ before a ha b hb
  simp only [Option.ite_none_right_eq_some, Option.some.injEq] at ha hb
  obtain ⟨-, rfl⟩ := ha
  obtain ⟨-, rfl⟩ := hb
  exact before

theorem nodup_membersOf (roster : Roster) (room : String) :
    ((roster.membersOf room).map Prod.fst).Nodup := by
  rw [List.Nodup, List.pairwise_map]
  refine (ordered_membersOf roster room).imp ?_
  intro a b before same
  simp [same] at before

theorem nodup_queues_membersOf {roster : Roster} (unshared : roster.Unshared) (room : String) :
    ((roster.membersOf room).map fun member => member.2.queue).Nodup := by
  rw [List.Nodup, List.pairwise_map]
  refine List.Pairwise.imp_of_mem ?_ (ordered_membersOf roster room)
  rintro ⟨client, handle⟩ ⟨other, handle'⟩ here there before same
  have kept := handleOf?_eq_some_iff.mpr ⟨room, mem_membersOf.mp here⟩
  have kept' := handleOf?_eq_some_iff.mpr ⟨room, mem_membersOf.mp there⟩
  have := unshared client other _ _ kept kept' same
  simp [this] at before

theorem mem_answering (roster : Roster) (room : String) (payload : Bytes) (queues : Queues)
    (answer : Offer) (client : ClientId) :
    client ∈ roster.answering room payload queues answer ↔
      ∃ handle, roster[client]? = some (room, handle) ∧
        (queues.offer handle.queue payload).1 = answer := by
  simp [answering, mem_membersOf]

end Roster

namespace Registry

variable {payload : Bytes} {members : List (ClientId × Handle)} {queues : Queues}

theorem removed_note (report : DeliveryReport) (client : ClientId) (answer : Offer) :
    (report.note client answer).removed.Perm
      (if answer = .delivered then report.removed else client :: report.removed) := by
  cases answer with
  | delivered => exact .refl _
  | full => exact .refl _
  | closed => exact List.perm_middle

/-- Only members are removed. -/
theorem subset_removed_offerEach :
    (offerEach payload members queues).1.removed ⊆ members.map Prod.fst := by
  induction members generalizing queues with
  | nil => simp [offerEach, DeliveryReport.removed]
  | cons member members ih =>
      intro client removed
      have step := @ih (queues.offer member.2.queue payload).2
      simp only [offerEach, (removed_note _ _ _).mem_iff] at removed
      rw [List.map_cons, List.mem_cons]
      split at removed
      · exact .inr (step removed)
      · exact (List.mem_cons.mp removed).imp id fun rest => step rest

theorem roomOf?_of_removed {roster : Roster} {room : String} {client : ClientId}
    (removed : client ∈ (offerEach payload (roster.membersOf room) queues).1.removed) :
    roster.roomOf? client = some room := by
  obtain ⟨⟨_, handle⟩, member, rfl⟩ := List.mem_map.mp (subset_removed_offerEach removed)
  exact Roster.roomOf?_eq_some_iff.mpr ⟨handle, Roster.mem_membersOf.mp member⟩

/-- Nobody is removed twice. -/
theorem nodup_removed_offerEach (payload : Bytes) (queues : Queues) (nodup : (members.map Prod.fst).Nodup) :
    (offerEach payload members queues).1.removed.Nodup := by
  induction members generalizing queues with
  | nil => simp [offerEach, DeliveryReport.removed]
  | cons member members ih =>
      obtain ⟨new, nodup⟩ := List.nodup_cons.mp nodup
      simp only [offerEach, (removed_note _ _ _).nodup_iff]
      split
      · exact ih _ nodup
      · exact List.nodup_cons.mpr ⟨fun old => new (subset_removed_offerEach old), ih _ nodup⟩

/-- What members without a common queue answer is what their queues answer at the start. -/
theorem report_offerEach (payload : Bytes) (queues : Queues) (distinct : (members.map fun member => member.2.queue).Nodup) :
    let answering (answer : Offer) := (members.filter fun (_, handle) =>
      (queues.offer handle.queue payload).1 = answer).map Prod.fst
    (offerEach payload members queues).1 =
      { delivered := (answering .delivered).length
        evicted := answering .full
        disconnected := answering .closed } := by
  induction members generalizing queues with
  | nil => rfl
  | cons member members ih =>
      obtain ⟨client, handle⟩ := member
      obtain ⟨new, distinct⟩ := List.nodup_cons.mp distinct
      have untouched : ∀ other ∈ members,
          ((queues.offer handle.queue payload).2.offer other.2.queue payload).1 =
            (queues.offer other.2.queue payload).1 := by
        intro other member
        apply Queues.offer_congr
        rw [Queues.getElem?_offer, if_neg]
        intro same
        exact new (List.mem_map.mpr ⟨other, member, same.symm⟩)
      have rest : ∀ answer : Offer,
          (members.filter fun (_, other) =>
            ((queues.offer handle.queue payload).2.offer other.queue payload).1 = answer) =
          members.filter fun (_, other) => (queues.offer other.queue payload).1 = answer := by
        intro answer
        apply List.filter_congr
        intro other member
        simp only [untouched other member]
      simp only [offerEach, ih _ distinct, rest]
      cases first : (queues.offer handle.queue payload).1 <;>
        simp [DeliveryReport.note, first]

/-- Every member's queue takes its offer, and no other queue is touched. -/
theorem getElem?_offerEach (payload : Bytes) (queues : Queues) (distinct : (members.map fun member => member.2.queue).Nodup)
    (id : QueueId) :
    (offerEach payload members queues).2[id]? =
      if id ∈ members.map fun member => member.2.queue then
        queues[id]?.map fun queue => (queue.offer payload).2
      else queues[id]? := by
  induction members generalizing queues with
  | nil => simp [offerEach]
  | cons member members ih =>
      obtain ⟨new, distinct⟩ := List.nodup_cons.mp distinct
      simp only [offerEach, ih _ distinct, Queues.getElem?_offer, List.map_cons, List.mem_cons]
      by_cases first : id = member.2.queue
      · subst first
        simp [new]
      · rw [if_neg (Ne.symm first)]
        simp only [first, false_or]

namespace Mirrors

variable {registry : Registry} {roster : Roster}

/-- The members of a room come out of the registry as the roster has them. -/
theorem toList_members (mirrors : registry.Mirrors roster) {room : String} {members : Members}
    (found : registry.rooms[room]? = some members) : members.toList = roster.membersOf room := by
  apply eq_of_ascending Prod.fst Std.ExtTreeMap.ordered_keys_toList (roster.ordered_membersOf room)
  rintro ⟨client, handle⟩
  rw [Std.ExtTreeMap.mem_toList_iff_getElem?_eq_some, Roster.mem_membersOf,
    mirrors.member_iff found]

theorem membersOf_eq_nil (mirrors : registry.Mirrors roster) {room : String}
    (absent : registry.rooms[room]? = none) : roster.membersOf room = [] := by
  apply List.eq_nil_iff_forall_not_mem.mpr
  rintro ⟨client, handle⟩ member
  obtain ⟨members, found, -⟩ := mirrors.found (Roster.mem_membersOf.mp member)
  rw [absent] at found
  exact nomatch found

theorem mem_handles (mirrors : registry.Mirrors roster) {handle : Handle} :
    handle ∈ registry.handles ↔ ∃ client, roster.handleOf? client = some handle := by
  simp only [handles, List.mem_flatMap, List.mem_map, Prod.exists,
    Std.ExtTreeMap.mem_toList_iff_getElem?_eq_some, Roster.handleOf?_eq_some_iff]
  constructor
  · rintro ⟨room, members, found, client, _, stored, rfl⟩
    exact ⟨client, room, (mirrors.member_iff found client _).mp stored⟩
  · rintro ⟨client, room, stored⟩
    obtain ⟨members, found, present⟩ := mirrors.found stored
    exact ⟨room, members, found, client, handle, present, rfl⟩

theorem nodup_handles (mirrors : registry.Mirrors roster) (unshared : roster.Unshared) :
    (registry.handles.map Handle.queue).Nodup := by
  rw [handles, List.map_flatMap, List.nodup_flatMap]
  constructor
  · rintro ⟨room, members⟩ listed
    have found := Std.ExtTreeMap.mem_toList_iff_getElem?_eq_some.mp listed
    simp only [mirrors.toList_members found, List.map_map]
    exact Roster.nodup_queues_membersOf unshared room
  · refine List.Pairwise.imp_of_mem ?_ Std.ExtTreeMap.ordered_keys_toList
    rintro ⟨room, members⟩ ⟨room', members'⟩ listed listed' before queue here there
    have found := Std.ExtTreeMap.mem_toList_iff_getElem?_eq_some.mp listed
    have found' := Std.ExtTreeMap.mem_toList_iff_getElem?_eq_some.mp listed'
    simp only [mirrors.toList_members found, List.mem_map, Prod.exists, Roster.mem_membersOf] at here
    simp only [mirrors.toList_members found', List.mem_map, Prod.exists,
      Roster.mem_membersOf] at there
    obtain ⟨_, ⟨client, handle, stored, rfl⟩, rfl⟩ := here
    obtain ⟨_, ⟨other, handle', stored', rfl⟩, same⟩ := there
    have one := unshared client other handle handle'
      (Roster.handleOf?_eq_some_iff.mpr ⟨room, stored⟩)
      (Roster.handleOf?_eq_some_iff.mpr ⟨room', stored'⟩) same.symm
    subst one
    rw [stored] at stored'
    cases stored'
    rw [Std.ReflOrd.compare_self] at before
    exact nomatch before

/-- A delivery takes out the members whose offer was refused. -/
theorem deliver (mirrors : registry.Mirrors roster) (room : String) (payload : Bytes)
    (queues : Queues) :
    let offers := offerEach payload (roster.membersOf room) queues
    let after := roster.without offers.1.removed
    ∃ left, registry.deliver room payload queues =
        ({ offers.1 with roomClosed := roster.occupied room && !after.occupied room },
          offers.1.removed.filterMap roster.handleOf?, left, offers.2) ∧
      left.Mirrors after := by
  intro offers after
  have exist := mirrors.contains room
  cases found : registry.rooms[room]? with
  | none =>
      have nobody : offers = ({}, queues) := by
        simp [offers, mirrors.membersOf_eq_nil found, offerEach]
      have empty : roster.occupied room = false := by
        rw [← exist, Std.ExtTreeMap.contains_eq_isSome_getElem?, found]
        rfl
      refine ⟨registry, ?_, by simpa [after, nobody, DeliveryReport.removed, Roster.without]⟩
      simp [Registry.deliver, found, nobody, empty, DeliveryReport.removed]
  | some members =>
      have present : ∀ client ∈ offers.1.removed, roster.roomOf? client = some room :=
        fun client removed => roomOf?_of_removed removed
      have left := mirrors.without found present
      have occupied : roster.occupied room = true := by
        rw [← exist, Std.ExtTreeMap.contains_eq_isSome_getElem?, found]
        rfl
      have closed : (offers.1.removed.foldl (fun members client => members.erase client)
          members).isEmpty = !after.occupied room := by
        rw [← left.contains room]
        cases none : (offers.1.removed.foldl (fun members client => members.erase client)
          members).isEmpty <;> simp [roomsWith, none]
      have released : (offers.1.removed.filterMap fun client => members[client]?) =
          offers.1.removed.filterMap roster.handleOf? := by
        apply List.filterMap_congr
        intro client removed
        apply Option.ext
        intro handle
        have at_room := present client removed
        rw [mirrors.member_iff found]
        simp only [Roster.handleOf?, Roster.roomOf?, Option.map_eq_some_iff] at at_room ⊢
        obtain ⟨⟨_, kept⟩, stored, rfl⟩ := at_room
        simp [stored]
      refine ⟨_, ?_, left⟩
      simp only [Registry.deliver, found, mirrors.toList_members found, occupied, Bool.true_and]
      simp only [offers, after] at closed released ⊢
      rw [closed, released]

end Mirrors

end Registry
end ChatRelay
