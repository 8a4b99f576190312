import ChatRelay.Proofs.Hub.Delivery
import ChatRelay.Proofs.Presence.Records

/-! # The books of a worker in Redis

As long as nobody else writes to the two keys, what they hold is at every moment a ledger, though
perhaps not the one that recorded all changes: exchanges may fail. An exchange that is carried out
does to these books a part of what recording its change does to a ledger.
-/

namespace ChatRelay

namespace PresenceLedger

/-- Count a departure, and keep the room whatever its counter is. -/
def deduct (ledger : PresenceLedger) (room : String) : PresenceLedger :=
  { ledger with members := ledger.members.insert room (ledger.total room - 1) }

/-- Remove a room and its counter. -/
def forget (ledger : PresenceLedger) (room : String) : PresenceLedger :=
  { rooms := ledger.rooms.erase room, members := ledger.members.erase room }

theorem count?_deduct (ledger : PresenceLedger) (room place : String) :
    (ledger.deduct room).count? place =
      if room = place then some (ledger.total room - 1) else ledger.count? place := by
  simp only [deduct, count?, Std.ExtTreeMap.getElem?_insert, Std.LawfulEqCmp.compare_eq_iff_eq]

theorem count?_forget (ledger : PresenceLedger) (room place : String) :
    (ledger.forget room).count? place = if room = place then none else ledger.count? place := by
  simp only [forget, count?, Std.ExtTreeMap.getElem?_erase, Std.LawfulEqCmp.compare_eq_iff_eq]

theorem isActive_joined (ledger : PresenceLedger) (room place : String) :
    (ledger.record (.joined room)).isActive place = true ↔
      room = place ∨ ledger.isActive place = true := by
  simp only [isActive, record_joined, Std.ExtTreeSet.contains_iff_mem, Std.ExtTreeSet.mem_insert,
    Std.LawfulEqCmp.compare_eq_iff_eq]

theorem isActive_forget (ledger : PresenceLedger) (room place : String) :
    (ledger.forget room).isActive place = true ↔ room ≠ place ∧ ledger.isActive place = true := by
  simp only [isActive, forget, Std.ExtTreeSet.contains_iff_mem, Std.ExtTreeSet.mem_erase, ne_eq,
    Std.LawfulEqCmp.compare_eq_iff_eq]

/-- A departure is recorded by deducting it and forgetting the room if nobody is left. -/
theorem record_left_eq (ledger : PresenceLedger) (room : String) :
    ledger.record (.left room) =
      if shouldPurge (ledger.total room - 1) = true then (ledger.deduct room).forget room
      else ledger.deduct room := by
  have again : (ledger.members.insert room (ledger.total room - 1)).erase room =
      ledger.members.erase room := by
    apply Std.ExtTreeMap.ext_getElem?
    intro place
    simp only [Std.ExtTreeMap.getElem?_erase, Std.ExtTreeMap.getElem?_insert]
    split <;> rfl
  have few : (shouldPurge (ledger.total room - 1) = true) = (ledger.total room ≤ 1) := by
    simp only [shouldPurge, decide_eq_true_eq]
    apply propext
    omega
  simp only [record_left, few, deduct, forget, again]

/-- Every active room has a counter, and every room with a positive counter is active. -/
structure Covered (ledger : PresenceLedger) : Prop where
  counted : ∀ room, ledger.isActive room = true → (ledger.count? room).isSome
  active : ∀ room count, ledger.count? room = some count → 0 < count → ledger.isActive room = true

namespace Covered

variable {ledger : PresenceLedger}

theorem empty : Covered {} where
  counted := by simp [isActive]
  active := by simp [count?]

theorem joined (covered : ledger.Covered) (room : String) :
    (ledger.record (.joined room)).Covered where
  counted place active := by
    rw [count?_joined]
    split
    · rfl
    · next other =>
        exact covered.counted place (((isActive_joined ..).mp active).resolve_left other)
  active place count counted positive := by
    rw [count?_joined] at counted
    rw [isActive_joined]
    split at counted
    · next same => exact .inl same
    · exact .inr (covered.active place count counted positive)

/-- A room with a positive counter may be entered again. -/
theorem listed (covered : ledger.Covered) {room : String} (positive : 0 < ledger.total room) :
    Covered { ledger with rooms := ledger.rooms.insert room } where
  counted place active := by
    have known := (isActive_joined ledger room place).mp active
    rcases known with rfl | active
    · change (ledger.count? room).isSome
      cases found : ledger.count? room with
      | none => simp [total, found] at positive
      | some count => rfl
    · exact covered.counted place active
  active place count counted positive :=
    (isActive_joined ledger room place).mpr (.inr (covered.active place count counted positive))

theorem deduct (covered : ledger.Covered) (room : String) : (ledger.deduct room).Covered where
  counted place active := by
    rw [count?_deduct]
    split
    · rfl
    · exact covered.counted place active
  active place count counted positive := by
    rw [count?_deduct] at counted
    split at counted
    · next same =>
        -- the counter was positive before, so the room had one
        cases counted
        subst same
        have before : ledger.count? room = some (ledger.total room) := by
          cases found : ledger.count? room with
          | none =>
              simp only [total, found, Option.getD_none] at positive
              omega
          | some count => simp [total, found]
        exact covered.active room _ before (by omega)
    · exact covered.active place count counted positive

theorem forget (covered : ledger.Covered) (room : String) : (ledger.forget room).Covered where
  counted place active := by
    obtain ⟨other, active⟩ := (isActive_forget ..).mp active
    rw [count?_forget, if_neg other]
    exact covered.counted place active
  active place count counted positive := by
    rw [count?_forget] at counted
    split at counted
    · exact nomatch counted
    · next other =>
        exact (isActive_forget ..).mpr ⟨other, covered.active place count counted positive⟩

end Covered

end PresenceLedger

/-- What Redis keeps under the two keys is a ledger. -/
structure Redis.Store.Holds (store : Store) (keys : PresenceKeys) (books : PresenceLedger) :
    Prop where
  tally : ∀ room, (store.hash keys.members)[Utf8.ofString room]? =
    (books.count? room).map ofInteger
  fields : ∀ field ∈ store.hash keys.members, ∃ room, field = Utf8.ofString room
  listed : ∀ room, Utf8.ofString room ∈ store.set keys.rooms ↔ books.isActive room = true
  elements : ∀ element ∈ store.set keys.rooms, ∃ room, element = Utf8.ofString room
  words : ∀ room count, books.count? room = some count → Text.isWord count = true

namespace Redis.Store

variable {store : Store} {keys : PresenceKeys} {books : PresenceLedger}

theorem Holds.empty (rooms : store.set keys.rooms = ∅) (members : store.hash keys.members = ∅) :
    store.Holds keys {} := by
  constructor <;> simp [rooms, members, PresenceLedger.count?, PresenceLedger.isActive]

theorem Holds.total_word (holds : store.Holds keys books) (room : String) :
    Text.isWord (books.total room) = true := by
  unfold PresenceLedger.total
  cases counted : books.count? room with
  | none => rfl
  | some count => exact holds.words room count counted

/-- A field has the counter that the books have for its room. -/
theorem Holds.tally_iff (holds : store.Holds keys books) {room : String} {count : Int} :
    (∃ value, (store.hash keys.members)[Utf8.ofString room]? = some value ∧
      integer? value = some count) ↔ books.count? room = some count := by
  rw [holds.tally]
  constructor
  · rintro ⟨value, found, reads⟩
    obtain ⟨held, counted, rfl⟩ := Option.map_eq_some_iff.mp found
    rw [integer?_ofInteger (holds.words room held counted)] at reads
    rw [counted, reads]
  · intro counted
    exact ⟨ofInteger count, by rw [counted]; rfl,
      integer?_ofInteger (holds.words room count counted)⟩

/-- A counter is changed if the result is a word, and is left alone otherwise. -/
theorem Holds.hincrby (holds : store.Holds keys books) (room : String) (amount : Int) :
    (Text.isWord (books.total room + amount) = true ∧
      ∃ after, store.run (.hincrby keys.members (Utf8.ofString room) amount) =
          (.integer (books.total room + amount), after) ∧
        after.Holds keys { books with
          members := books.members.insert room (books.total room + amount) }) ∨
    Text.isWord (books.total room + amount) = false ∧
      ∃ text, store.run (.hincrby keys.members (Utf8.ofString room) amount) =
        (.fault text, store) := by
  have word := holds.total_word room
  have held : (store.hash keys.members)[Utf8.ofString room]? =
        some (ofInteger (books.total room)) ∨
      (store.hash keys.members)[Utf8.ofString room]? = none ∧ books.total room = 0 := by
    rw [holds.tally, PresenceLedger.total]
    cases books.count? room with
    | none => exact .inr ⟨rfl, rfl⟩
    | some count => exact .inl rfl
  cases fits : Text.isWord (books.total room + amount) with
  | true =>
      obtain ⟨after, ran, set, hash⟩ := run_hincrby word held fits
      refine .inl ⟨rfl, after, ran, ?_⟩
      have count? (place : String) : PresenceLedger.count? { books with
          members := books.members.insert room (books.total room + amount) } place =
            if room = place then some (books.total room + amount) else books.count? place := by
        simp only [PresenceLedger.count?, Std.ExtTreeMap.getElem?_insert,
          Std.LawfulEqCmp.compare_eq_iff_eq]
      constructor
      · intro place
        rw [hash, count?]
        by_cases same : room = place
        · subst same
          simp
        · have apart : Utf8.ofString room ≠ Utf8.ofString place := fun equal =>
            same (Utf8.ofString_injective equal)
          simp only [if_neg same, if_neg apart, holds.tally]
      · intro field there
        rw [Std.ExtTreeMap.mem_iff_isSome_getElem?, hash] at there
        split at there
        · next same => exact ⟨room, same.symm⟩
        · exact holds.fields field (Std.ExtTreeMap.mem_iff_isSome_getElem?.mpr there)
      · rw [set]
        exact holds.listed
      · rw [set]
        exact holds.elements
      · intro place count counted
        rw [count?] at counted
        split at counted
        · cases counted
          exact fits
        · exact holds.words place count counted
  | false =>
      refine .inr ⟨rfl, "ERR increment or decrement would overflow", ?_⟩
      rcases held with value | ⟨none, zero⟩
      · simp [run, increment, value, integer?_ofInteger word, fits]
      · rw [zero, Int.zero_add] at fits
        simp [run, increment, none, fits]

/-- A room is put into the set. -/
theorem Holds.sadd (holds : store.Holds keys books) (room : String) :
    (store.run (.sadd keys.rooms (Utf8.ofString room))).2.Holds keys
      { books with rooms := books.rooms.insert room } := by
  constructor
  · exact holds.tally
  · exact holds.fields
  · intro place
    rw [mem_sadd, holds.listed]
    simp only [PresenceLedger.isActive, Std.ExtTreeSet.contains_iff_mem, Std.ExtTreeSet.mem_insert,
      Std.LawfulEqCmp.compare_eq_iff_eq]
    exact or_congr_left ⟨fun same => Utf8.ofString_injective same, fun same => same ▸ rfl⟩
  · intro element there
    rcases mem_sadd.mp there with rfl | there
    · exact ⟨room, rfl⟩
    · exact holds.elements element there
  · exact holds.words

/-- A room is removed, with its counter. -/
theorem Holds.purge (holds : store.Holds keys books) (room : String) :
    (store.runAll (keys.purge room)).2.Holds keys (books.forget room) ∧
      ∃ m n, (store.runAll (keys.purge room)).1 = [.integer m, .integer n] := by
  refine ⟨?_, _, _, rfl⟩
  have hash (place : Bytes) : ((store.runAll (keys.purge room)).2.hash keys.members)[place]? =
      if Utf8.ofString room = place then none else (store.hash keys.members)[place]? :=
    getElem?_hdel ..
  have set (element : Bytes) : element ∈ (store.runAll (keys.purge room)).2.set keys.rooms ↔
      Utf8.ofString room ≠ element ∧ element ∈ store.set keys.rooms := mem_srem
  constructor
  · intro place
    rw [hash, PresenceLedger.count?_forget]
    by_cases same : room = place
    · subst same
      simp
    · have apart : Utf8.ofString room ≠ Utf8.ofString place := fun equal =>
        same (Utf8.ofString_injective equal)
      simp only [if_neg same, if_neg apart, holds.tally]
  · intro field there
    rw [Std.ExtTreeMap.mem_iff_isSome_getElem?, hash] at there
    split at there
    · exact nomatch there
    · exact holds.fields field (Std.ExtTreeMap.mem_iff_isSome_getElem?.mpr there)
  · intro place
    rw [set, holds.listed, PresenceLedger.isActive_forget]
    exact and_congr_left fun _ => not_congr ⟨fun same => Utf8.ofString_injective same,
      fun same => same ▸ rfl⟩
  · exact fun element there => holds.elements element ((set element).mp there).2
  · intro place count counted
    rw [PresenceLedger.count?_forget] at counted
    split at counted
    · exact nomatch counted
    · exact holds.words place count counted

/-- The exchange of an arrival records it. Only a full counter stays as it is. -/
theorem Holds.joined (holds : store.Holds keys books) (room : String) :
    ∃ after, (∃ m n, store.runAll (keys.commands (.joined room)) =
        ([.integer m, .integer n], after) ∧ after.Holds keys (books.record (.joined room))) ∨
      ∃ m text, store.runAll (keys.commands (.joined room)) =
          ([.integer m, .fault text], after) ∧
        0 < books.total room ∧ after.Holds keys { books with rooms := books.rooms.insert room } := by
  have entered := holds.sadd room
  have word := holds.total_word room
  let added : Int := if (store.set keys.rooms).contains (Utf8.ofString room) then 0 else 1
  rcases entered.hincrby room 1 with ⟨-, after, ran, later⟩ | ⟨full, text, ran⟩
  · refine ⟨after, .inl ⟨added, books.total room + 1, ?_, later⟩⟩
    simp only [PresenceKeys.commands, runAll, ran]
    rfl
  · refine ⟨_, .inr ⟨added, text, ?_, ?_, entered⟩⟩
    · simp only [PresenceKeys.commands, runAll, ran]
      rfl
    · have same : PresenceLedger.total { books with rooms := books.rooms.insert room } room =
          books.total room := rfl
      rw [same] at full
      simp only [Text.isWord, Bool.and_eq_true, Bool.and_eq_false_iff, decide_eq_true_eq,
        decide_eq_false_iff_not] at word full
      omega

/-- The first exchange of a departure deducts it. Only a counter at the least word stays as it
    is. -/
theorem Holds.left (holds : store.Holds keys books) (room : String) :
    (∃ after, store.runAll (keys.commands (.left room)) =
        ([.integer (books.total room - 1)], after) ∧ after.Holds keys (books.deduct room)) ∨
      ∃ text, store.runAll (keys.commands (.left room)) = ([.fault text], store) := by
  rcases holds.hincrby room (-1) with ⟨-, after, ran, later⟩ | ⟨-, text, ran⟩
  · refine .inl ⟨after, ?_, later⟩
    simp only [PresenceKeys.commands, runAll, ran]
    rfl
  · refine .inr ⟨text, ?_⟩
    simp only [PresenceKeys.commands, runAll, ran]

/-- A reader is told what the ledger tells, in whatever order Redis lists it. -/
theorem Holds.survey (holds : store.Holds keys books) {replies : List Reply}
    (answers : store.Answers keys.survey replies) : readSurvey? replies = some books.active := by
  obtain ⟨_, fields, rfl, listed, counted⟩ := answers_survey.mp answers
  obtain ⟨rooms, rfl, distinct, members⟩ := exists_names holds.elements listed
  have sorted : sortNames rooms = books.rooms.toList := by
    have ascending : books.rooms.toList.Pairwise fun a b => compare a b = .lt :=
      Std.ExtTreeSet.ordered_toList
    apply eq_of_ascending id (sortNames_ascending distinct) ascending
    intro room
    rw [mem_sortNames, members, holds.listed, Std.ExtTreeSet.mem_toList]
    exact Std.ExtTreeSet.contains_iff_mem
  rw [readSurvey?_eq_some holds.tally holds.fields holds.words rooms counted, sorted]
  rfl

end Redis.Store
end ChatRelay
