import ChatRelay.Presence.Ledger
import Mathlib

/-! # Counters of the presence ledger

A change adds one to the counter of its room or takes one off. As long as no departure takes a
counter below zero, the counters are sums of the changes, and the ledger records exactly the rooms
whose sum is positive.
-/

namespace ChatRelay

namespace PresenceChange

/-- What a change does to the counter of a room. -/
def weight (place : String) : PresenceChange → Int
  | joined room => if room = place then 1 else 0
  | left room => if room = place then -1 else 0

/-- What changes do together to the counter of a room. -/
def net (place : String) (changes : List PresenceChange) : Int := (changes.map (weight place)).sum

@[simp] theorem net_nil (place : String) : net place [] = 0 := rfl

@[simp] theorem net_cons (place : String) (change : PresenceChange) (changes : List PresenceChange) :
    net place (change :: changes) = change.weight place + net place changes := by
  simp [net]

@[simp] theorem net_append (place : String) (changes later : List PresenceChange) :
    net place (changes ++ later) = net place changes + net place later := by
  simp [net]

theorem net_le_count (place : String) (changes : List PresenceChange) :
    net place changes ≤ changes.count (.joined place) := by
  induction changes with
  | nil => simp
  | cons change changes ih =>
      rw [net_cons, List.count_cons]
      cases change with
      | joined room =>
          by_cases same : room = place <;> simp [weight, same] <;> omega
      | left room =>
          by_cases same : room = place <;> simp [weight, same] <;> omega

theorem net_replicate (place : String) (count : Nat) (change : PresenceChange) :
    net place (List.replicate count change) = count * change.weight place := by
  induction count with
  | zero => simp
  | succ count ih =>
      rw [List.replicate_succ, net_cons, ih, Int.natCast_succ, Int.add_mul, Int.one_mul,
        Int.add_comm]

end PresenceChange

namespace PresenceLedger

/-- Counter of a room; zero if it is not recorded. -/
def total (ledger : PresenceLedger) (room : String) : Int := (ledger.count? room).getD 0

theorem mem_active_iff {ledger : PresenceLedger} {entry : RoomPresence} :
    entry ∈ ledger.active ↔
      ledger.isActive entry.room = true ∧ entry.members = ledger.total entry.room := by
  obtain ⟨room, members⟩ := entry
  rw [active, List.mem_map]
  constructor
  · rintro ⟨_, there, same⟩
    cases same
    exact ⟨Std.ExtTreeSet.contains_iff_mem.mpr (Std.ExtTreeSet.mem_toList.mp there), rfl⟩
  · rintro ⟨active, counter⟩
    refine ⟨room, Std.ExtTreeSet.mem_toList.mpr (Std.ExtTreeSet.contains_iff_mem.mp active), ?_⟩
    exact congrArg (RoomPresence.mk room) counter.symm

/-- The rooms are those with a counter, and every counter is positive. -/
structure Sound (ledger : PresenceLedger) : Prop where
  rooms : ∀ room, room ∈ ledger.rooms ↔ (ledger.count? room).isSome
  positive : ∀ room count, ledger.count? room = some count → 0 < count

theorem record_joined (ledger : PresenceLedger) (room : String) :
    ledger.record (.joined room) =
      { rooms := ledger.rooms.insert room
        members := ledger.members.insert room (ledger.total room + 1) } :=
  rfl

/-- A departure takes a counter down, or forgets a room whose counter would drop to zero. -/
theorem record_left (ledger : PresenceLedger) (room : String) :
    ledger.record (.left room) =
      if ledger.total room ≤ 1 then
        { rooms := ledger.rooms.erase room, members := ledger.members.erase room }
      else { ledger with members := ledger.members.insert room (ledger.total room - 1) } := by
  change (if shouldPurge (ledger.total room - 1) then _ else _ : Int × PresenceLedger).2 = _
  by_cases few : ledger.total room ≤ 1
  · have purge : ledger.total room - 1 ≤ 0 := by omega
    simp [shouldPurge, few, purge]
  · have keep : ¬ ledger.total room - 1 ≤ 0 := by omega
    simp only [shouldPurge, few, keep, decide_false, Bool.false_eq_true, if_false]
    rfl

theorem count?_joined (ledger : PresenceLedger) (room place : String) :
    (ledger.record (.joined room)).count? place =
      if room = place then some (ledger.total room + 1) else ledger.count? place := by
  simp only [record_joined, count?, Std.ExtTreeMap.getElem?_insert,
    Std.LawfulEqCmp.compare_eq_iff_eq]

theorem count?_left (ledger : PresenceLedger) (room place : String) :
    (ledger.record (.left room)).count? place =
      if room = place then
        if ledger.total room ≤ 1 then none else some (ledger.total room - 1)
      else ledger.count? place := by
  rw [record_left]
  split <;>
    simp only [count?, Std.ExtTreeMap.getElem?_erase, Std.ExtTreeMap.getElem?_insert,
      Std.LawfulEqCmp.compare_eq_iff_eq]

theorem apply_fst (ledger : PresenceLedger) (change : PresenceChange) :
    (ledger.apply change).1 = ledger.total change.room + change.weight change.room := by
  cases change with
  | joined room => simp [apply, total, PresenceChange.room, PresenceChange.weight]
  | left room =>
      simp only [apply, total, PresenceChange.room, PresenceChange.weight, if_true]
      split <;> omega

/-- A change does not touch the counters of other rooms. -/
theorem total_record_of_ne (ledger : PresenceLedger) {change : PresenceChange} {place : String}
    (other : change.room ≠ place) : (ledger.record change).total place = ledger.total place := by
  cases change with
  | joined room =>
      have apart : room ≠ place := other
      rw [total, count?_joined, if_neg apart, total]
  | left room =>
      have apart : room ≠ place := other
      rw [total, count?_left, if_neg apart, total]

namespace Sound

variable {ledger : PresenceLedger}

theorem empty : Sound {} where
  rooms := by simp [count?]
  positive := by simp [count?]

theorem total_nonneg (sound : ledger.Sound) (room : String) : 0 ≤ ledger.total room := by
  unfold total
  cases counted : ledger.count? room with
  | none => simp
  | some count => exact Int.le_of_lt (sound.positive room count counted)

theorem record (sound : ledger.Sound) (change : PresenceChange) : (ledger.record change).Sound := by
  have floor := sound.total_nonneg change.room
  cases change with
  | joined room =>
      constructor
      · intro place
        rw [count?_joined]
        simp only [record_joined, Std.ExtTreeSet.mem_insert, Std.LawfulEqCmp.compare_eq_iff_eq,
          sound.rooms]
        split <;> simp_all
      · intro place count counted
        rw [count?_joined] at counted
        split at counted
        · cases counted
          simp only [PresenceChange.room] at floor
          omega
        · exact sound.positive place count counted
  | left room =>
      constructor
      · intro place
        have before := sound.rooms place
        rw [count?_left, record_left]
        by_cases few : ledger.total room ≤ 1
        · simp only [few, if_true, Std.ExtTreeSet.mem_erase, ne_eq,
            Std.LawfulEqCmp.compare_eq_iff_eq]
          split <;> simp_all
        · simp only [few, if_false]
          split
          · next same =>
              subst same
              rw [before]
              cases counted : ledger.count? room with
              | none => simp [total, counted] at few
              | some count => rfl
          · exact before
      · intro place count counted
        rw [count?_left] at counted
        split at counted
        · split at counted
          · exact nomatch counted
          · cases counted
            omega
        · exact sound.positive place count counted

/-- A change that leaves its counter at zero or above is added to the counters. -/
theorem total_record (sound : ledger.Sound) (change : PresenceChange)
    (fits : 0 ≤ (ledger.apply change).1) (place : String) :
    (ledger.record change).total place = ledger.total place + change.weight place := by
  have floor := sound.total_nonneg place
  rw [apply_fst] at fits
  cases change with
  | joined room =>
      simp only [total, count?_joined, PresenceChange.weight] at floor ⊢
      split
      · next same => simp [← same]
      · simp
  | left room =>
      simp only [PresenceChange.room, PresenceChange.weight, if_true] at fits ⊢
      unfold total at *
      rw [count?_left]
      unfold total
      split
      · next same =>
          subst same
          split <;> simp <;> omega
      · simp

/-- A recorded counter is the total, and nothing is recorded for a total of zero. -/
theorem count?_eq (sound : ledger.Sound) (room : String) :
    ledger.count? room = if 0 < ledger.total room then some (ledger.total room) else none := by
  cases counted : ledger.count? room with
  | none => simp [total, counted]
  | some count =>
      have := sound.positive room count counted
      simp [total, counted, this]

theorem isActive_iff (sound : ledger.Sound) (room : String) :
    ledger.isActive room = true ↔ 0 < ledger.total room := by
  rw [isActive, Std.ExtTreeSet.contains_iff_mem, sound.rooms, sound.count?_eq]
  split <;> simp_all

theorem mem_active (sound : ledger.Sound) {room : String} {members : Int} :
    ⟨room, members⟩ ∈ ledger.active ↔ 0 < ledger.total room ∧ members = ledger.total room := by
  rw [mem_active_iff, sound.isActive_iff]

end Sound

theorem ordered_active (ledger : PresenceLedger) :
    ledger.active.Pairwise fun a b => compare a.room b.room = .lt := by
  have ordered : ledger.rooms.toList.Pairwise fun a b => compare a b = .lt :=
    Std.ExtTreeSet.ordered_toList
  rw [active, List.pairwise_map]
  exact ordered

end PresenceLedger
end ChatRelay
