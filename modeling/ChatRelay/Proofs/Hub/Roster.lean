import ChatRelay.Hub.Registry

/-! # The roster behind the registry

The registry keeps two maps in step: the members of each room, and the room of each client. Both are
the image of one map, the roster, which has the room and the handle of each client.
`Registry.Mirrors` says what the image is, and the operations of the registry are stated here as
changes of the roster. What an operation answers is read off the rosters before and after it.
-/

namespace ChatRelay

/-- The room and the handle of each registered client. -/
abbrev Roster := Std.ExtTreeMap ClientId (String × Handle)

namespace Roster

/-- Room that a client is in. -/
def roomOf? (roster : Roster) (client : ClientId) : Option String := roster[client]?.map Prod.fst

/-- Whether anybody is in a room. -/
def occupied (roster : Roster) (room : String) : Bool :=
  roster.toList.any fun (_, place, _) => place == room

/-- The roster without some clients. -/
def without (roster : Roster) (gone : List ClientId) : Roster :=
  gone.foldl (fun roster client => roster.erase client) roster

/-- The roster with a handle in a room, in place of any other handle of its client. -/
def put (roster : Roster) (room : String) (handle : Handle) : Roster :=
  roster.insert handle.client (room, handle)

/-- The roster with a client in another room, handle and all. -/
def move (roster : Roster) (client : ClientId) (room : String) : Roster :=
  match roster[client]? with
  | some (_, handle) => roster.put room handle
  | none => roster

/-- The departure of a client that was in a room before and is not in it after. -/
def departure? (before after : Roster) (client : ClientId) : Option Departure :=
  match before.roomOf? client with
  | some room =>
      if after.roomOf? client = some room then none
      else some { client, room, roomClosed := !after.occupied room }
  | none => none

/-- Handle of a client. -/
def handleOf? (roster : Roster) (client : ClientId) : Option Handle := roster[client]?.map Prod.snd

/-- What bringing a client to a room did. -/
def arrival (before after : Roster) (client : ClientId) (room : String) : JoinOutcome where
  created := !before.occupied room
  added := before.roomOf? client ≠ some room
  movedFrom := before.departure? after client

theorem roomOf?_eq_some_iff {roster : Roster} {client : ClientId} {room : String} :
    roster.roomOf? client = some room ↔ ∃ handle, roster[client]? = some (room, handle) := by
  simp [roomOf?]

theorem handleOf?_eq_some_iff {roster : Roster} {client : ClientId} {handle : Handle} :
    roster.handleOf? client = some handle ↔ ∃ room, roster[client]? = some (room, handle) := by
  simp [handleOf?]

theorem occupied_iff {roster : Roster} {room : String} :
    roster.occupied room = true ↔ ∃ client, roster.roomOf? client = some room := by
  simp only [occupied, List.any_eq_true, Prod.exists, beq_iff_eq, roomOf?_eq_some_iff,
    Std.ExtTreeMap.mem_toList_iff_getElem?_eq_some]
  constructor
  · rintro ⟨client, place, handle, stored, rfl⟩
    exact ⟨client, handle, stored⟩
  · rintro ⟨client, handle, stored⟩
    exact ⟨client, room, handle, stored, rfl⟩

@[simp] theorem roomOf?_empty (client : ClientId) : roomOf? ∅ client = none := by
  simp [roomOf?]

theorem getElem?_put (roster : Roster) (room : String) (handle : Handle) (client : ClientId) :
    (roster.put room handle)[client]? =
      if handle.client = client then some (room, handle) else roster[client]? := by
  simp only [put, Std.ExtTreeMap.getElem?_insert, Std.LawfulEqCmp.compare_eq_iff_eq]

theorem roomOf?_put (roster : Roster) (room : String) (handle : Handle) (client : ClientId) :
    (roster.put room handle).roomOf? client =
      if handle.client = client then some room else roster.roomOf? client := by
  simp only [roomOf?, getElem?_put]
  split <;> rfl

theorem handleOf?_put (roster : Roster) (room : String) (handle : Handle) (client : ClientId) :
    (roster.put room handle).handleOf? client =
      if handle.client = client then some handle else roster.handleOf? client := by
  simp only [handleOf?, getElem?_put]
  split <;> rfl

theorem occupied_congr {before after : Roster} {room : String}
    (same : ∀ client, before.roomOf? client = some room ↔ after.roomOf? client = some room) :
    before.occupied room = after.occupied room := by
  rw [Bool.eq_iff_iff, occupied_iff, occupied_iff]
  exact exists_congr same

end Roster

theorem getElem?_foldl_erase {β : Type} (gone : List ClientId) (map : Std.ExtTreeMap ClientId β)
    (client : ClientId) :
    (gone.foldl (fun map client => map.erase client) map)[client]? =
      if client ∈ gone then none else map[client]? := by
  induction gone generalizing map with
  | nil => simp
  | cons first gone ih =>
      simp only [List.foldl_cons, ih, Std.ExtTreeMap.getElem?_erase,
        Std.LawfulEqCmp.compare_eq_iff_eq, List.mem_cons]
      grind

namespace Roster

theorem getElem?_without (roster : Roster) (gone : List ClientId) (client : ClientId) :
    (roster.without gone)[client]? = if client ∈ gone then none else roster[client]? :=
  getElem?_foldl_erase gone roster client

theorem roomOf?_without (roster : Roster) (gone : List ClientId) (client : ClientId) :
    (roster.without gone).roomOf? client = if client ∈ gone then none else roster.roomOf? client := by
  simp only [roomOf?, getElem?_without]
  split <;> rfl

theorem handleOf?_without (roster : Roster) (gone : List ClientId) (client : ClientId) :
    (roster.without gone).handleOf? client =
      if client ∈ gone then none else roster.handleOf? client := by
  simp only [handleOf?, getElem?_without]
  split <;> rfl

theorem without_of_absent {roster : Roster} {client : ClientId} (absent : roster[client]? = none) :
    roster.without [client] = roster := by
  apply Std.ExtTreeMap.ext_getElem?
  intro other
  rw [getElem?_without]
  split
  · next same => rw [List.mem_singleton.mp same, absent]
  · rfl

theorem put_without (roster : Roster) (room : String) (handle : Handle) :
    (roster.without [handle.client]).put room handle = roster.put room handle := by
  apply Std.ExtTreeMap.ext_getElem?
  intro other
  simp only [getElem?_put, getElem?_without, List.mem_singleton]
  grind

end Roster

namespace Registry

/-- The handle that is kept for a client in a room. -/
def handleIn? (registry : Registry) (room : String) (client : ClientId) : Option Handle :=
  registry.rooms[room]?.bind (·[client]?)

/-- The two maps of the registry are the image of a roster. -/
structure Mirrors (registry : Registry) (roster : Roster) : Prop where
  /-- The index has the room of each client. -/
  index : ∀ client, registry.index[client]? = roster.roomOf? client
  /-- A handle is kept in the room of its client, and in no other. -/
  stored : ∀ room client handle,
    registry.handleIn? room client = some handle ↔ roster[client]? = some (room, handle)
  /-- A room exists exactly as long as somebody is in it. -/
  rooms : ∀ room, room ∈ registry.rooms ↔ ∃ client, roster.roomOf? client = some room
  /-- A handle is kept under the client that it belongs to. -/
  own : ∀ client room (handle : Handle), roster[client]? = some (room, handle) →
    handle.client = client

namespace Mirrors

variable {registry : Registry} {roster : Roster}

theorem empty : Mirrors {} ∅ where
  index := by simp
  stored := by simp [handleIn?]
  rooms := by simp
  own := by simp

/-- A roster has one image. -/
theorem unique {other : Registry} (mirrors : registry.Mirrors roster)
    (others : other.Mirrors roster) : registry = other := by
  have index : registry.index = other.index := by
    apply Std.ExtTreeMap.ext_getElem?
    intro client
    rw [mirrors.index, others.index]
  have rooms : registry.rooms = other.rooms := by
    apply Std.ExtTreeMap.ext_getElem?
    intro room
    have same : ∀ client, registry.handleIn? room client = other.handleIn? room client := by
      intro client
      apply Option.ext
      intro handle
      rw [mirrors.stored, others.stored]
    have exist : room ∈ registry.rooms ↔ room ∈ other.rooms := by
      rw [mirrors.rooms, others.rooms]
    simp only [Std.ExtTreeMap.mem_iff_isSome_getElem?] at exist
    cases left : registry.rooms[room]? <;> cases right : other.rooms[room]? <;>
      simp only [left, right, Option.isSome_some, Option.isSome_none, Bool.false_eq_true,
        iff_false, iff_true, not_true_eq_false] at exist ⊢
    congr 1
    apply Std.ExtTreeMap.ext_getElem?
    intro client
    simpa [handleIn?, left, right] using same client
  cases registry
  cases other
  simp_all

end Mirrors

/-- What is kept where once the members of one room are replaced. -/
theorem handleIn?_roomsWith (registry : Registry) (room place : String) (members : Members)
    (client : ClientId) :
    (registry.roomsWith room members)[place]?.bind (·[client]?) =
      if room = place then members[client]? else registry.handleIn? place client := by
  unfold roomsWith handleIn?
  split
  · next none =>
      have : members = ∅ := Std.ExtTreeMap.isEmpty_iff.mp none
      subst this
      simp only [Std.ExtTreeMap.getElem?_erase, Std.LawfulEqCmp.compare_eq_iff_eq]
      split <;> simp
  · simp only [Std.ExtTreeMap.getElem?_insert, Std.LawfulEqCmp.compare_eq_iff_eq]
    split <;> simp

theorem mem_roomsWith {registry : Registry} {room place : String} {members : Members} :
    place ∈ registry.roomsWith room members ↔
      if room = place then ∃ client, client ∈ members else place ∈ registry.rooms := by
  unfold roomsWith
  split
  · next none =>
      have : members = ∅ := Std.ExtTreeMap.isEmpty_iff.mp none
      subst this
      simp only [Std.ExtTreeMap.mem_erase, ne_eq, Std.LawfulEqCmp.compare_eq_iff_eq,
        Std.ExtTreeMap.not_mem_empty, exists_false]
      split <;> simp_all
  · next some =>
      have : ∃ client, client ∈ members := by
        apply Classical.byContradiction
        intro nobody
        apply some
        rw [Std.ExtTreeMap.isEmpty_iff]
        apply Std.ExtTreeMap.ext_getElem?
        intro client
        rw [Std.ExtTreeMap.getElem?_eq_none (not_exists.mp nobody client)]
        simp
      simp only [Std.ExtTreeMap.mem_insert, Std.LawfulEqCmp.compare_eq_iff_eq]
      split <;> simp_all

namespace Mirrors

variable {registry : Registry} {roster : Roster} {room : String} {members : Members}

/-- The members of a room, as the roster has them. -/
theorem member_iff (mirrors : registry.Mirrors roster) (found : registry.rooms[room]? = some members)
    (client : ClientId) (handle : Handle) :
    members[client]? = some handle ↔ roster[client]? = some (room, handle) := by
  rw [← mirrors.stored]
  simp [handleIn?, found]

/-- A client that the roster has in a room is found there. -/
theorem found (mirrors : registry.Mirrors roster) {client : ClientId} {handle : Handle}
    (present : roster[client]? = some (room, handle)) :
    ∃ members, registry.rooms[room]? = some members ∧ members[client]? = some handle := by
  have stored := (mirrors.stored room client handle).mpr present
  simpa [handleIn?, Option.bind_eq_some_iff] using stored

/-- Taking some members out of a room. -/
theorem without (mirrors : registry.Mirrors roster)
    (found : registry.rooms[room]? = some members) {gone : List ClientId}
    (present : ∀ client ∈ gone, roster.roomOf? client = some room) :
    Mirrors
      { rooms := registry.roomsWith room
          (gone.foldl (fun members client => members.erase client) members)
        index := gone.foldl (fun index client => index.erase client) registry.index }
      (roster.without gone) where
  index := by
    intro client
    simp only [getElem?_foldl_erase, mirrors.index, Roster.roomOf?_without]
  stored := by
    intro place client handle
    have here := mirrors.member_iff found client handle
    have there := mirrors.stored place client handle
    simp only [handleIn?, Roster.getElem?_without] at there ⊢
    rw [handleIn?_roomsWith, getElem?_foldl_erase]
    by_cases leaves : client ∈ gone
    · obtain ⟨stored, at_room⟩ := Roster.roomOf?_eq_some_iff.mp (present client leaves)
      have elsewhere : room ≠ place → registry.handleIn? place client ≠ some handle := by
        intro other kept
        rw [mirrors.stored, at_room] at kept
        exact other (congrArg Prod.fst (Option.some.inj kept))
      by_cases same : room = place
      · simp [same, leaves]
      · simp [same, leaves, elsewhere same]
    · by_cases same : room = place
      · subst same
        simpa [leaves] using here
      · simpa [same, leaves, handleIn?] using there
  rooms := by
    intro place
    have remains : ∀ client, client ∈ gone.foldl (fun members client => members.erase client) members ↔
        client ∉ gone ∧ roster.roomOf? client = some room := by
      intro client
      simp only [Std.ExtTreeMap.mem_iff_isSome_getElem?, getElem?_foldl_erase,
        Option.isSome_iff_exists, Roster.roomOf?_eq_some_iff, ← mirrors.member_iff found]
      split <;> simp_all
    simp only [mem_roomsWith, remains, Roster.roomOf?_without]
    split
    · next same => subst same; simp
    · next other =>
        rw [mirrors.rooms]
        refine exists_congr fun client => ?_
        by_cases leaves : client ∈ gone
        · simp [leaves, present client leaves, other]
        · simp [leaves]
  own := by
    intro client place handle stored
    rw [Roster.getElem?_without] at stored
    split at stored
    · exact nomatch stored
    · exact mirrors.own client place handle stored

/-- Putting a handle into a room, whose client is there already or nowhere. -/
theorem insert (mirrors : registry.Mirrors roster) (room : String) (handle : Handle)
    (settled : ∀ place, roster.roomOf? handle.client = some place → place = room) :
    Mirrors
      { rooms := registry.rooms.insert room
          ((registry.rooms[room]?.getD ∅).insert handle.client handle)
        index := registry.index.insert handle.client room }
      (roster.put room handle) where
  index := by
    intro client
    simp only [Std.ExtTreeMap.getElem?_insert, Std.LawfulEqCmp.compare_eq_iff_eq, mirrors.index,
      Roster.roomOf?_put]
  stored := by
    intro place client stored
    have there := mirrors.stored place client stored
    have here : (registry.rooms[room]?.getD ∅)[client]? = registry.handleIn? room client := by
      cases found : registry.rooms[room]? <;> simp [handleIn?, found]
    simp only [handleIn?, Std.ExtTreeMap.getElem?_insert, Std.LawfulEqCmp.compare_eq_iff_eq,
      Roster.getElem?_put] at there ⊢
    by_cases same : room = place
    · subst same
      simp only [if_true, Option.bind_some, Std.ExtTreeMap.getElem?_insert,
        Std.LawfulEqCmp.compare_eq_iff_eq, here]
      split
      · simp
      · exact there
    · simp only [same, if_false, there]
      split
      · next own =>
          subst own
          constructor
          · intro kept
            exact absurd (settled place (Roster.roomOf?_eq_some_iff.mpr ⟨stored, kept⟩)).symm same
          · intro kept
            exact absurd (congrArg Prod.fst (Option.some.inj kept)) same
      · rfl
  rooms := by
    intro place
    simp only [Std.ExtTreeMap.mem_insert, Std.LawfulEqCmp.compare_eq_iff_eq, mirrors.rooms,
      Roster.roomOf?_put]
    constructor
    · rintro (same | ⟨client, kept⟩)
      · exact ⟨handle.client, by simp [same]⟩
      · refine ⟨client, ?_⟩
        split
        · next own =>
            subst own
            rw [settled place kept]
        · exact kept
    · rintro ⟨client, kept⟩
      split at kept
      · exact .inl (Option.some.inj kept)
      · exact .inr ⟨client, kept⟩
  own := by
    intro client place stored kept
    rw [Roster.getElem?_put] at kept
    split at kept
    · next own =>
        obtain ⟨-, rfl⟩ := Prod.mk.inj (Option.some.inj kept)
        exact own
    · exact mirrors.own client place stored kept

theorem contains (mirrors : registry.Mirrors roster) (room : String) :
    registry.rooms.contains room = roster.occupied room := by
  rw [Bool.eq_iff_iff, Roster.occupied_iff, ← mirrors.rooms, Std.ExtTreeMap.mem_iff_contains]

/-- A client that the index knows is always found, with its handle. -/
theorem detach (mirrors : registry.Mirrors roster) (client : ClientId) :
    ∃ left, registry.detach client =
        (roster[client]?.map fun (room, handle) =>
          (handle, { client, room, roomClosed := !(roster.without [client]).occupied room }), left) ∧
      left.Mirrors (roster.without [client]) := by
  have index := mirrors.index client
  cases present : roster[client]? with
  | none =>
      refine ⟨registry, ?_, ?_⟩
      · simp [Registry.detach, index, Roster.roomOf?, present]
      · rwa [Roster.without_of_absent present]
  | some place =>
      obtain ⟨room, handle⟩ := place
      obtain ⟨members, found, kept⟩ := mirrors.found present
      have at_room : roster.roomOf? client = some room :=
        Roster.roomOf?_eq_some_iff.mpr ⟨handle, present⟩
      have there : ∀ other ∈ [client], roster.roomOf? other = some room := by simpa using at_room
      have left := mirrors.without found there
      have closed : (members.erase client).isEmpty = !(roster.without [client]).occupied room := by
        rw [← left.contains room]
        cases none : (members.erase client).isEmpty <;> simp [roomsWith, none]
      refine ⟨_, ?_, left⟩
      simp [Registry.detach, index, at_room, found, kept, closed]

theorem disconnect (mirrors : registry.Mirrors roster) (client : ClientId) :
    ∃ left, registry.disconnect client =
        (roster.departure? (roster.without [client]) client, (roster.handleOf? client).toList,
          left) ∧
      left.Mirrors (roster.without [client]) := by
  obtain ⟨left, call, mirrored⟩ := mirrors.detach client
  refine ⟨left, ?_, mirrored⟩
  simp only [Registry.disconnect, call, Roster.departure?, Roster.handleOf?,
    Roster.roomOf?_without, List.mem_singleton, if_true]
  cases present : roster[client]? <;> simp [Roster.roomOf?, present]

theorem leave (mirrors : registry.Mirrors roster) (room : String) (client : ClientId) :
    ∃ left after, registry.leave room client =
        (roster.departure? after client,
          if roster.roomOf? client = some room then (roster.handleOf? client).toList else [], left) ∧
      left.Mirrors after ∧
      after = if roster.roomOf? client = some room then roster.without [client] else roster := by
  have index : registry.roomOf? client = roster.roomOf? client := mirrors.index client
  simp only [Registry.leave, index]
  split
  · obtain ⟨left, call, mirrored⟩ := mirrors.disconnect client
    exact ⟨left, _, call, mirrored, rfl⟩
  · refine ⟨registry, roster, ?_, mirrors, rfl⟩
    unfold Roster.departure?
    split <;> simp_all

/-- Putting a handle into a room, for a client that is not in another one. -/
theorem join_settled (mirrors : registry.Mirrors roster) (room : String) (handle : Handle)
    (settled : ∀ place, roster.roomOf? handle.client = some place → place = room) :
    ∃ joined, registry.join room handle =
        (roster.arrival (roster.put room handle) handle.client room,
          (roster.handleOf? handle.client).toList, joined) ∧
      joined.Mirrors (roster.put room handle) := by
  refine ⟨_, ?_, mirrors.insert room handle settled⟩
  have index := mirrors.index handle.client
  have here : (registry.rooms[room]?.getD ∅)[handle.client]? = roster.handleOf? handle.client := by
    have kept := mirrors.stored room handle.client
    apply Option.ext
    intro stored
    cases found : registry.rooms[room]? <;>
      simp only [handleIn?, found, Option.bind_none, Option.bind_some, Option.getD_none,
        Option.getD_some, Std.ExtTreeMap.getElem?_empty] at kept ⊢ <;>
      rw [kept, Roster.handleOf?, Option.map_eq_some_iff]
    all_goals
      constructor
      · intro present
        exact ⟨_, present, rfl⟩
      · rintro ⟨⟨place, stored⟩, present, rfl⟩
        rw [present, settled place (Roster.roomOf?_eq_some_iff.mpr ⟨_, present⟩)]
  have replaced : (roster.handleOf? handle.client).isNone =
      decide (roster.roomOf? handle.client ≠ some room) := by
    unfold Roster.handleOf? Roster.roomOf? at *
    cases present : roster[handle.client]? with
    | none => simp
    | some place => simp [settled place.1 (by simp [present])]
  cases at_place : roster.roomOf? handle.client with
  | none =>
      simp [Registry.join, index, at_place, here, replaced, mirrors.contains, Roster.arrival,
        Roster.departure?]
  | some place =>
      have := settled place at_place
      subst this
      simp [Registry.join, index, at_place, here, replaced, mirrors.contains, Roster.arrival,
        Roster.departure?, Roster.roomOf?_put]

/-- A client in another room is taken out of it before it comes to the new one. -/
private theorem join_moving {left : Option (Handle × Departure)} {after : Registry}
    {room place : String} {handle : Handle}
    (index : registry.index[handle.client]? = some place) (other : place ≠ room)
    (call : registry.detach handle.client = (left, after))
    (absent : after.index[handle.client]? = none) :
    registry.join room handle =
      ({ (after.join room handle).1 with movedFrom := left.map Prod.snd },
        (left.map Prod.fst).toList ++ (after.join room handle).2.1, (after.join room handle).2.2) := by
  simp [Registry.join, index, other, call, absent]

/-- A move, seen as a departure followed by an arrival. -/
private theorem arrival_moving {room place : String} {handle : Handle}
    (at_place : roster.roomOf? handle.client = some place) (other : place ≠ room) :
    { (roster.without [handle.client]).arrival (roster.put room handle) handle.client room with
        movedFrom := some
          { client := handle.client, room := place
            roomClosed := !(roster.without [handle.client]).occupied place } } =
      roster.arrival (roster.put room handle) handle.client room := by
  have created : (roster.without [handle.client]).occupied room = roster.occupied room := by
    apply Roster.occupied_congr
    intro client
    rw [Roster.roomOf?_without]
    grind
  have closed : (roster.without [handle.client]).occupied place =
      (roster.put room handle).occupied place := by
    apply Roster.occupied_congr
    intro client
    rw [Roster.roomOf?_without, Roster.roomOf?_put]
    grind
  simp [Roster.arrival, Roster.departure?, Roster.roomOf?_put, Roster.roomOf?_without, at_place,
    other, other.symm, created, closed]

theorem join (mirrors : registry.Mirrors roster) (room : String) (handle : Handle) :
    ∃ joined, registry.join room handle =
        (roster.arrival (roster.put room handle) handle.client room,
          (roster.handleOf? handle.client).toList, joined) ∧
      joined.Mirrors (roster.put room handle) := by
  by_cases settled : ∀ place, roster.roomOf? handle.client = some place → place = room
  · exact mirrors.join_settled room handle settled
  · obtain ⟨place, at_place, other⟩ :
        ∃ place, roster.roomOf? handle.client = some place ∧ place ≠ room := by simpa using settled
    obtain ⟨stored, present⟩ := Roster.roomOf?_eq_some_iff.mp at_place
    obtain ⟨after, detached, left⟩ := mirrors.detach handle.client
    have absent : (roster.without [handle.client]).roomOf? handle.client = none := by
      simp [Roster.roomOf?_without]
    obtain ⟨joined, call, mirrored⟩ := left.join_settled room handle (by simp [absent])
    rw [Roster.put_without] at call mirrored
    refine ⟨joined, ?_, mirrored⟩
    rw [join_moving ((mirrors.index _).trans at_place) other detached
      ((left.index _).trans absent), call, ← arrival_moving at_place other]
    simp [present, Roster.handleOf?, Roster.getElem?_without]

theorem switch (mirrors : registry.Mirrors roster) (client : ClientId) (room : String) :
    ∃ moved, registry.switch client room =
        ((roster.handleOf? client).map fun _ => roster.arrival (roster.move client room) client room,
          [], moved) ∧
      moved.Mirrors (roster.move client room) := by
  have index := mirrors.index client
  cases present : roster[client]? with
  | none =>
      obtain ⟨after, detached, left⟩ := mirrors.detach client
      rw [present, Option.map_none] at detached
      rw [Roster.without_of_absent present] at left
      refine ⟨after, ?_, ?_⟩
      · simp [Registry.switch, index, Roster.roomOf?, present, detached, Roster.handleOf?]
      · simpa [Roster.move, present] using left
  | some kept =>
      obtain ⟨place, handle⟩ := kept
      have own := mirrors.own client place handle present
      have at_place : roster.roomOf? client = some place :=
        Roster.roomOf?_eq_some_iff.mpr ⟨handle, present⟩
      have moved : roster.move client room = roster.put room handle := by
        simp [Roster.move, present]
      rw [moved]
      subst own
      by_cases same : place = room
      · subst same
        have stays : roster.put place handle = roster := by
          apply Std.ExtTreeMap.ext_getElem?
          intro other
          rw [Roster.getElem?_put]
          grind
        have occupied : roster.occupied place = true :=
          Roster.occupied_iff.mpr ⟨handle.client, at_place⟩
        refine ⟨registry, ?_, by rwa [stays]⟩
        simp [Registry.switch, index, at_place, Roster.handleOf?, present, stays, Roster.arrival,
          Roster.departure?, occupied]
      · obtain ⟨after, detached, left⟩ := mirrors.detach handle.client
        have absent : (roster.without [handle.client]).roomOf? handle.client = none := by
          simp [Roster.roomOf?_without]
        obtain ⟨joined, call, mirrored⟩ := left.join_settled room handle (by simp [absent])
        rw [Roster.put_without] at call mirrored
        refine ⟨joined, ?_, mirrored⟩
        rw [← arrival_moving at_place same]
        simp [Registry.switch, index, at_place, same, detached, present, call, Roster.handleOf?,
          Roster.getElem?_without]

end Mirrors

end Registry
end ChatRelay
