import ChatRelay.Proofs.Presence.Counters
import ChatRelay.Proofs.Presence.Exchanges
import ChatRelay.Proofs.Presence.Survey

/-! # What Redis holds while presence changes

The counters in Redis are those of a ledger at every moment. The set of rooms and the removal of
counters lag behind, and where the workers are says how: a room that somebody is about to join may
be listed without a counter, and one that somebody is about to remove may be listed still.

A room that is being removed has nobody in it. The removal is safe as long as nobody joins the room
before it is over.
-/

namespace ChatRelay

namespace Redis.Store

variable {store : Store} {key : Bytes}

theorem mem_sadd {member element : Bytes} :
    element ∈ (store.run (.sadd key member)).2.set key ↔
      member = element ∨ element ∈ store.set key := by
  simp [run, addMembers, set]

theorem mem_srem {member element : Bytes} :
    element ∈ (store.run (.srem key member)).2.set key ↔
      member ≠ element ∧ element ∈ store.set key := by
  simp [run, set]

theorem getElem?_hdel (field place : Bytes) :
    ((store.run (.hdel key field)).2.hash key)[place]? =
      if field = place then none else (store.hash key)[place]? := by
  simp [run, hash, Std.ExtTreeMap.getElem?_erase]

@[simp] theorem hash_sadd (member : Bytes) :
    (store.run (.sadd key member)).2.hash = store.hash := rfl

@[simp] theorem hash_srem (member : Bytes) :
    (store.run (.srem key member)).2.hash = store.hash := rfl

@[simp] theorem set_hdel (field : Bytes) :
    (store.run (.hdel key field)).2.set = store.set := rfl

/-- An integer that stays within a word is added to. -/
theorem run_hincrby {field : Bytes} {n amount : Int} (word : Text.isWord n = true)
    (held : (store.hash key)[field]? = some (ofInteger n) ∨ (store.hash key)[field]? = none ∧ n = 0)
    (later : Text.isWord (n + amount) = true) :
    ∃ after, store.run (.hincrby key field amount) = (.integer (n + amount), after) ∧
      after.set = store.set ∧ ∀ place, (after.hash key)[place]? =
        if field = place then some (ofInteger (n + amount)) else (store.hash key)[place]? := by
  refine ⟨store.setFields key [(field, ofInteger (n + amount))], ?_, rfl, fun place => ?_⟩
  · rcases held with value | ⟨none, rfl⟩
    · simp only [run, increment, value, integer?_ofInteger word, later, if_true]
    · simp only [run, increment, none, later, if_true]
  · simp [setFields, hash, Std.ExtTreeMap.getElem?_insert]

end Redis.Store

namespace PresenceStage

variable {parties : Nat} {stage : Fin parties → PresenceStage} {index : Fin parties}

/-- Some worker is at a stage. -/
def Reached (stage : Fin parties → PresenceStage) (place : PresenceStage) : Prop :=
  ∃ index, stage index = place

theorem reached_update {old new place : PresenceStage} (here : stage index = old)
    (apart : place ≠ old) :
    Reached (Function.update stage index new) place ↔ place = new ∨ Reached stage place := by
  rw [Reached, Function.exists_update_iff stage fun _ now => now = place, eq_comm]
  refine or_congr_right ⟨fun ⟨other, _, there⟩ => ⟨other, there⟩, fun ⟨other, there⟩ => ?_⟩
  exact ⟨other, fun same => apart (by rw [← there, same, here]), there⟩

theorem of_reached_update {new place : PresenceStage}
    (reached : Reached (Function.update stage index new) place) :
    place = new ∨ Reached stage place := by
  rw [Reached, Function.exists_update_iff stage fun _ now => now = place] at reached
  rcases reached with rfl | ⟨other, -, there⟩
  · exact .inl rfl
  · exact .inr ⟨other, there⟩

end PresenceStage

/-- What Redis holds, with the workers at their stages and with all that was counted. -/
structure Redis.Store.Records {parties : Nat} (store : Store) (keys : PresenceKeys)
    (stage : Fin parties → PresenceStage) (total : String → Int) : Prop where
  tally : ∀ room,
    (store.hash keys.members)[Utf8.ofString room]? = some (ofInteger (total room)) ∧
        (0 < total room ∨ PresenceStage.Reached stage (.removing room)) ∨
      (store.hash keys.members)[Utf8.ofString room]? = none ∧ total room = 0
  empty : ∀ room, PresenceStage.Reached stage (.removing room) ∨
    PresenceStage.Reached stage (.erased room) → total room = 0
  listed : ∀ room, 0 < total room ∨ PresenceStage.Reached stage (.entered room) →
    Utf8.ofString room ∈ store.set keys.rooms
  reason : ∀ room, Utf8.ofString room ∈ store.set keys.rooms → 0 < total room ∨
    PresenceStage.Reached stage (.entered room) ∨ PresenceStage.Reached stage (.removing room) ∨
      PresenceStage.Reached stage (.erased room)
  fields : ∀ field ∈ store.hash keys.members, ∃ room, field = Utf8.ofString room
  elements : ∀ element ∈ store.set keys.rooms, ∃ room, element = Utf8.ofString room

namespace Redis.Store.Records

open PresenceStage

variable {parties : Nat} {store : Store} {keys : PresenceKeys}
  {stage : Fin parties → PresenceStage} {total : String → Int} {index : Fin parties} {room : String}

theorem start {stage : Fin parties → PresenceStage} (idle : ∀ index, stage index = .idle) :
    Records {} keys stage fun _ => 0 := by
  constructor <;> simp [hash, set, Reached, idle]

/-- A worker begins with a change. -/
theorem begin (records : store.Records keys stage total) (here : stage index = .idle)
    (change : PresenceChange) :
    store.Records keys (Function.update stage index (.ofChange change)) total := by
  obtain ⟨tally, empty, listed, reason, fields, elements⟩ := records
  cases change <;> constructor <;>
    simpa (disch := simp) only [ofChange, reached_update here, reduceCtorEq, false_or]

/-- A room is put into the set. -/
theorem enter (records : store.Records keys stage total) (here : stage index = .joining room) :
    (store.run (.sadd keys.rooms (Utf8.ofString room))).2.Records keys
      (Function.update stage index (.entered room)) total := by
  obtain ⟨tally, empty, listed, reason, fields, elements⟩ := records
  constructor
  · simpa (disch := simp) only [hash_sadd, reached_update here, reduceCtorEq, false_or] using tally
  · simpa (disch := simp) only [reached_update here, reduceCtorEq, false_or] using empty
  · intro place there
    simp (disch := simp) only [reached_update here, entered.injEq] at there
    rw [mem_sadd]
    rcases there with some | rfl | there
    · exact .inr (listed place (.inl some))
    · exact .inl rfl
    · exact .inr (listed place (.inr there))
  · intro place there
    simp (disch := simp) only [reached_update here, entered.injEq, reduceCtorEq, false_or]
    rcases mem_sadd.mp there with same | there
    · exact .inr (.inl (.inl (Utf8.ofString_injective same.symm)))
    · exact (reason place there).imp_right (.imp_left .inr)
  · exact fields
  · intro element there
    rcases mem_sadd.mp there with rfl | there
    · exact ⟨room, rfl⟩
    · exact elements element there

/-- A counter is removed. -/
theorem erase (records : store.Records keys stage total) (here : stage index = .removing room) :
    (store.run (.hdel keys.members (Utf8.ofString room))).2.Records keys
      (Function.update stage index (.erased room)) total := by
  obtain ⟨tally, empty, listed, reason, fields, elements⟩ := records
  have nobody : total room = 0 := empty room (.inl ⟨index, here⟩)
  constructor
  · intro place
    rw [getElem?_hdel]
    split
    · next same => exact .inr ⟨rfl, Utf8.ofString_injective same ▸ nobody⟩
    · next apart =>
        have other : removing place ≠ removing room := fun same => apart (by cases same; rfl)
        rw [reached_update here other]
        exact (tally place).imp_left (And.imp_right (Or.imp_right .inr))
  · intro place there
    rcases there with there | there
    · rcases of_reached_update there with same | there
      · exact nomatch same
      · exact empty place (.inl there)
    · rcases of_reached_update there with same | there
      · cases same
        exact nobody
      · exact empty place (.inr there)
  · simpa (disch := simp) only [reached_update here, reduceCtorEq, false_or, set_hdel]
      using listed
  · intro place there
    by_cases same : place = room
    · subst same
      exact .inr (.inr (.inr ⟨index, Function.update_self ..⟩))
    · have other : removing place ≠ removing room := fun equal => same (by cases equal; rfl)
      rw [reached_update here other]
      simp (disch := simp) only [reached_update here, reduceCtorEq, false_or]
      exact (reason place there).imp_right (.imp_right (.imp_right .inr))
  · intro field there
    refine fields field ?_
    rw [Std.ExtTreeMap.mem_iff_isSome_getElem?, getElem?_hdel] at there
    rw [Std.ExtTreeMap.mem_iff_isSome_getElem?]
    split at there
    · exact nomatch there
    · exact there
  · exact elements

/-- A room is taken out of the set, while nobody is about to join it. -/
theorem remove (records : store.Records keys stage total) (here : stage index = .erased room)
    (alone : ¬Reached stage (.entered room)) :
    (store.run (.srem keys.rooms (Utf8.ofString room))).2.Records keys
      (Function.update stage index .idle) total := by
  obtain ⟨tally, empty, listed, reason, fields, elements⟩ := records
  have nobody : total room = 0 := empty room (.inr ⟨index, here⟩)
  constructor
  · simpa (disch := simp) only [hash_srem, reached_update here, reduceCtorEq, false_or] using tally
  · intro place there
    refine empty place ?_
    rcases there with there | there
    · exact .inl ((of_reached_update there).resolve_left nofun)
    · exact .inr ((of_reached_update there).resolve_left nofun)
  · intro place there
    simp (disch := simp) only [reached_update here, reduceCtorEq, false_or] at there
    refine mem_srem.mpr ⟨fun same => ?_, listed place there⟩
    cases Utf8.ofString_injective same
    rcases there with some | there
    · omega
    · exact alone there
  · intro place there
    obtain ⟨apart, there⟩ := mem_srem.mp there
    have other : erased place ≠ erased room := fun same => apart (by cases same; rfl)
    rw [reached_update here other]
    simp (disch := simp) only [reached_update here, reduceCtorEq, false_or]
    exact reason place there
  · exact fields
  · exact fun element there => elements element (mem_srem.mp there).2

/-- A counter has the value that was counted. -/
theorem held (records : store.Records keys stage total) (room : String) :
    (store.hash keys.members)[Utf8.ofString room]? = some (ofInteger (total room)) ∨
      (store.hash keys.members)[Utf8.ofString room]? = none ∧ total room = 0 :=
  (records.tally room).imp_left And.left

/-- An arrival is counted, while nobody removes the room. -/
theorem join (records : store.Records keys stage total) (here : stage index = .entered room)
    (floor : 0 ≤ total room)
    (alone : ¬(Reached stage (.removing room) ∨ Reached stage (.erased room)))
    (word : Text.isWord (total room) = true) (later : Text.isWord (total room + 1) = true) :
    ∃ after, store.run (.hincrby keys.members (Utf8.ofString room) 1) =
        (.integer (total room + 1), after) ∧
      after.Records keys (Function.update stage index .idle)
        fun place => total place + (PresenceChange.joined room).weight place := by
  obtain ⟨after, ran, set, hash⟩ := run_hincrby word (records.held room) later
  obtain ⟨tally, empty, listed, reason, fields, elements⟩ := records
  refine ⟨after, ran, ?_⟩
  constructor
  · intro place
    rw [hash, PresenceChange.weight]
    split
    · next same =>
        cases Utf8.ofString_injective same
        rw [if_pos rfl]
        exact .inl ⟨rfl, .inl (by omega)⟩
    · next apart =>
        have other : room ≠ place := fun same => apart (by rw [same])
        rw [if_neg other, Int.add_zero]
        simpa (disch := simp) only [reached_update here, reduceCtorEq, false_or] using tally place
  · intro place there
    simp (disch := simp) only [reached_update here, reduceCtorEq, false_or] at there
    have other : room ≠ place := fun same => alone (same ▸ there)
    rw [PresenceChange.weight, if_neg other, Int.add_zero]
    exact empty place there
  · intro place there
    rw [set]
    apply listed
    by_cases same : room = place
    · subst same
      exact .inr ⟨index, here⟩
    · rw [PresenceChange.weight, if_neg same, Int.add_zero] at there
      rcases there with some | reached
      · exact .inl some
      · rcases of_reached_update reached with same | reached
        · cases same
        · exact .inr reached
  · intro place there
    rw [set] at there
    rw [PresenceChange.weight]
    split
    · next same =>
        subst same
        exact .inl (by omega)
    · next apart =>
        have other : entered place ≠ entered room := fun same => apart (by cases same; rfl)
        rw [Int.add_zero, reached_update here other]
        simp (disch := simp) only [reached_update here, reduceCtorEq, false_or]
        exact reason place there
  · intro field there
    rw [Std.ExtTreeMap.mem_iff_isSome_getElem?, hash] at there
    split at there
    · next same => exact ⟨room, same.symm⟩
    · exact fields field (Std.ExtTreeMap.mem_iff_isSome_getElem?.mpr there)
  · rwa [set]

/-- A departure is counted. With the last of them the room is empty and to be removed. -/
theorem leave (records : store.Records keys stage total) (here : stage index = .leaving room)
    (some : 0 < total room) (word : Text.isWord (total room) = true)
    (later : Text.isWord (total room - 1) = true) :
    ∃ after, store.run (.hincrby keys.members (Utf8.ofString room) (-1)) =
        (.integer (total room - 1), after) ∧
      after.Records keys
        (Function.update stage index ((leaving room).after (.integer (total room - 1))))
        fun place => total place + (PresenceChange.left room).weight place := by
  obtain ⟨after, ran, set, hash⟩ := run_hincrby word (records.held room) later
  obtain ⟨tally, empty, listed, reason, fields, elements⟩ := records
  have removing_iff (place : String) :
      Reached (Function.update stage index ((leaving room).after (.integer (total room - 1))))
        (removing place) ↔ total room = 1 ∧ room = place ∨ Reached stage (removing place) := by
    rw [reached_update here (by simp)]
    by_cases last : total room = 1
    · simp [PresenceStage.after, PresenceLedger.shouldPurge, last, eq_comm]
    · have more : ¬total room - 1 ≤ 0 := by omega
      simp [PresenceStage.after, PresenceLedger.shouldPurge, last, more]
  have others (place : PresenceStage) (busy : place ≠ leaving room) (kept : place ≠ idle)
      (apart : place ≠ removing room) :
      Reached (Function.update stage index ((leaving room).after (.integer (total room - 1))))
        place ↔ Reached stage place := by
    rw [reached_update here busy]
    simp only [PresenceStage.after]
    split <;> simp [kept, apart]
  have entered_iff (place : String) := others (entered place) (by simp) (by simp) (by simp)
  have erased_iff (place : String) := others (erased place) (by simp) (by simp) (by simp)
  have weight (place : String) : (PresenceChange.left room).weight place =
      if room = place then -1 else 0 := rfl
  refine ⟨after, ran, ?_⟩
  constructor
  · intro place
    rw [hash, weight, removing_iff]
    split
    · next same =>
        cases Utf8.ofString_injective same
        rw [if_pos rfl]
        refine .inl ⟨rfl, ?_⟩
        by_cases last : total room = 1
        · exact .inr (.inl ⟨last, rfl⟩)
        · exact .inl (by omega)
    · next apart =>
        have other : room ≠ place := fun same => apart (by rw [same])
        rw [if_neg other, Int.add_zero]
        exact (tally place).imp_left (And.imp_right (Or.imp_right .inr))
  · intro place there
    rw [removing_iff, erased_iff, or_assoc] at there
    rw [weight]
    rcases there with ⟨last, rfl⟩ | there
    · rw [if_pos rfl, last]
      rfl
    · have nobody := empty place there
      have other : room ≠ place := fun same => by
        rw [same] at some
        omega
      rw [if_neg other, Int.add_zero, nobody]
  · intro place there
    rw [entered_iff, weight] at there
    rw [set]
    refine listed place (there.imp_left fun positive => ?_)
    split at positive <;> omega
  · intro place there
    rw [set] at there
    rw [entered_iff, removing_iff, erased_iff, weight]
    rcases reason place there with positive | entered | removing | erased
    · by_cases same : room = place
      · subst same
        rw [if_pos rfl]
        by_cases last : total room = 1
        · exact .inr (.inr (.inl (.inl ⟨last, rfl⟩)))
        · exact .inl (by omega)
      · rw [if_neg same, Int.add_zero]
        exact .inl positive
    · exact .inr (.inl entered)
    · exact .inr (.inr (.inl (.inr removing)))
    · exact .inr (.inr (.inr erased))
  · intro field there
    rw [Std.ExtTreeMap.mem_iff_isSome_getElem?, hash] at there
    split at there
    · next same => exact ⟨room, same.symm⟩
    · exact fields field (Std.ExtTreeMap.mem_iff_isSome_getElem?.mpr there)
  · rwa [set]

end Redis.Store.Records

/-- While instances are at work, a reader is told the counters of the moment. -/
theorem Redis.Store.Records.readSurvey? {parties : Nat} {store : Store} {keys : PresenceKeys}
    {stage : Fin parties → PresenceStage} {total : String → Int}
    (records : store.Records keys stage total) (word : ∀ room, Text.isWord (total room) = true)
    (rooms : List String) {fields : List (Bytes × Bytes)}
    (listed : (store.hash keys.members).toList.Perm fields) :
    ChatRelay.readSurvey? [.elements (rooms.map Utf8.ofString), .fields fields] =
      some ((sortNames rooms).map fun room => ⟨room, total room⟩) := by
  let count (room : String) : Option Int :=
    (store.hash keys.members)[Utf8.ofString room]?.map fun _ => total room
  have each (room : String) : (store.hash keys.members)[Utf8.ofString room]? =
        (count room).map ofInteger ∧ (count room).getD 0 = total room := by
    rcases records.held room with counted | ⟨none, nobody⟩
    · simp [count, counted]
    · simp [count, none, nobody]
  have words (room : String) (n : Int) (counted : count room = some n) :
      Text.isWord n = true := by
    obtain ⟨_, -, rfl⟩ := Option.map_eq_some_iff.mp counted
    exact word room
  rw [readSurvey?_eq_some (fun room => (each room).1) records.fields words rooms listed]
  simp only [each]

end ChatRelay
