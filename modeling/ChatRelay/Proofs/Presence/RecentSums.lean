import ChatRelay.Proofs.Presence.Counters
import ChatRelay.Proofs.Text.ByteOrder
import Mathlib.Order.Bounds.Basic

/-! # What a counter comes to

Where departures were not announced as arrivals before, a counter is not arrivals less departures:
it starts again from nothing whenever it would drop to zero. What it comes to is the most that any
number of the last changes of its room add up to.
-/

namespace ChatRelay

namespace PresenceChange

/-- What the changes of a room do to its counter, one after the other. -/
def steps (place : String) (changes : List PresenceChange) : List Int :=
  (changes.filter (·.room = place)).map (weight place)

/-- What some of the last changes of a room add up to, but not none of them. -/
def recentSums (place : String) (changes : List PresenceChange) : Set Int :=
  {sum | ∃ last, last ≠ [] ∧ last <:+ steps place changes ∧ last.sum = sum}

theorem weight_room (change : PresenceChange) :
    change.weight change.room = 1 ∨ change.weight change.room = -1 := by
  cases change <;> simp [weight, room]

theorem weight_of_ne {change : PresenceChange} {place : String} (other : change.room ≠ place) :
    change.weight place = 0 := by
  cases change <;> exact if_neg other

theorem recentSums_nil (place : String) : recentSums place [] = ∅ := by
  refine Set.eq_empty_iff_forall_notMem.mpr ?_
  rintro sum ⟨last, some, suffix, -⟩
  exact some (List.suffix_nil.mp suffix)

/-- One more change is the last of all, alone or after others. -/
theorem mem_recentSums_snoc {changes : List PresenceChange} {change : PresenceChange} {sum : Int} :
    sum ∈ recentSums change.room (changes ++ [change]) ↔
      sum = change.weight change.room ∨
        ∃ before ∈ recentSums change.room changes, sum = before + change.weight change.room := by
  have steps_snoc : steps change.room (changes ++ [change]) =
      steps change.room changes ++ [change.weight change.room] := by
    simp [steps]
  simp only [recentSums, Set.mem_ofPred_eq, steps_snoc, List.suffix_concat_iff]
  constructor
  · rintro ⟨last, some, none | ⟨before, rfl, suffix⟩, rfl⟩
    · exact absurd none some
    · cases before with
      | nil => exact .inl (by simp)
      | cons first before =>
          refine .inr ⟨_, ⟨_, List.cons_ne_nil _ _, suffix, rfl⟩, ?_⟩
          rw [List.sum_append, List.sum_singleton]
  · rintro (rfl | ⟨_, ⟨before, -, suffix, rfl⟩, rfl⟩)
    · exact ⟨[change.weight change.room], by simp, .inr ⟨[], rfl, List.nil_suffix⟩, by simp⟩
    · exact ⟨before ++ [change.weight change.room], by simp, .inr ⟨before, rfl, suffix⟩, by simp⟩

/-- Changes of other rooms add nothing. -/
theorem recentSums_snoc_of_ne {changes : List PresenceChange} {change : PresenceChange}
    {place : String} (other : change.room ≠ place) :
    recentSums place (changes ++ [change]) = recentSums place changes := by
  simp [recentSums, steps, other]

end PresenceChange

namespace PresenceLedger

open PresenceChange

/-- The ledger that has recorded some changes, and nothing before them. -/
def ofChanges (changes : List PresenceChange) : PresenceLedger := changes.foldl record {}

theorem ofChanges_snoc (changes : List PresenceChange) (change : PresenceChange) :
    ofChanges (changes ++ [change]) = (ofChanges changes).record change := by
  simp [ofChanges]

theorem sound_ofChanges (changes : List PresenceChange) : (ofChanges changes).Sound := by
  induction changes using List.reverseRecOn with
  | nil => exact .empty
  | append_singleton changes change ih => exact ofChanges_snoc changes change ▸ ih.record change

/-- A change moves the counter of its room by one, but not below zero. -/
theorem Sound.total_record_max {ledger : PresenceLedger} (sound : ledger.Sound)
    (change : PresenceChange) (place : String) :
    (ledger.record change).total place = max 0 (ledger.total place + change.weight place) := by
  have floor := sound.total_nonneg place
  by_cases other : change.room = place
  · subst other
    cases change with
    | joined room =>
        simp only [total, count?_joined, PresenceChange.room, weight, if_true,
          Option.getD_some] at floor ⊢
        omega
    | left room =>
        simp only [PresenceChange.room, weight, if_true] at floor ⊢
        rw [total, count?_left, if_pos rfl]
        split <;> simp only [Option.getD_none, Option.getD_some] <;> omega
  · rw [ledger.total_record_of_ne other, weight_of_ne other]
    omega

/-- A counter is at least what any of the last changes add up to, and it is one of these sums unless
    it is zero. -/
structure Peaks (place : String) (changes : List PresenceChange) (counter : Int) : Prop where
  floor : 0 ≤ counter
  above : ∀ sum ∈ recentSums place changes, sum ≤ counter
  reached : 0 < counter → counter ∈ recentSums place changes

namespace Peaks

variable {place : String} {changes : List PresenceChange} {counter : Int}

theorem start (place : String) : Peaks place [] 0 where
  floor := Int.le_refl 0
  above sum member := by simp [recentSums_nil] at member
  reached positive := absurd positive (Int.lt_irrefl 0)

theorem step (peaks : Peaks place changes counter) (change : PresenceChange) :
    Peaks place (changes ++ [change]) (max 0 (counter + change.weight place)) := by
  by_cases other : change.room = place
  · subst other
    refine ⟨Int.le_max_left _ _, fun sum member => ?_, fun positive => ?_⟩
    · have floor := peaks.floor
      rcases mem_recentSums_snoc.mp member with rfl | ⟨before, old, rfl⟩
      · omega
      · have above := peaks.above before old
        omega
    · have same : max 0 (counter + change.weight change.room) =
          counter + change.weight change.room := by omega
      rw [same, mem_recentSums_snoc]
      -- from zero the counter rises by the last change alone
      by_cases zero : counter = 0
      · exact .inl (by omega)
      · have floor := peaks.floor
        exact .inr ⟨counter, peaks.reached (by omega), rfl⟩
  · have same : max 0 (counter + change.weight place) = counter := by
      have floor := peaks.floor
      rw [weight_of_ne other]
      omega
    constructor <;> rw [same]
    · exact peaks.floor
    · rw [recentSums_snoc_of_ne other]
      exact peaks.above
    · rw [recentSums_snoc_of_ne other]
      exact peaks.reached

theorem run (place : String) (changes : List PresenceChange) :
    Peaks place changes ((ofChanges changes).total place) := by
  induction changes using List.reverseRecOn with
  | nil => exact start place
  | append_singleton changes change ih =>
      rw [ofChanges_snoc, (sound_ofChanges changes).total_record_max]
      exact ih.step change

/-- A positive counter is the greatest of the sums, and no positive sum is greater than it. -/
theorem isGreatest_iff (peaks : Peaks place changes counter) {sum : Int} :
    0 < sum ∧ IsGreatest (recentSums place changes) sum ↔ 0 < counter ∧ counter = sum := by
  constructor
  · rintro ⟨positive, listed, greatest⟩
    have above := peaks.above sum listed
    have least := greatest (peaks.reached (by omega))
    omega
  · rintro ⟨positive, rfl⟩
    exact ⟨positive, peaks.reached positive, fun sum member => peaks.above sum member⟩

end Peaks

/-- No counter gets beyond the number of changes. -/
theorem total_le_length (changes : List PresenceChange) (place : String) :
    (ofChanges changes).total place ≤ changes.length := by
  induction changes using List.reverseRecOn with
  | nil => exact Int.le_refl 0
  | append_singleton changes change ih =>
      have most : change.weight place ≤ 1 := by
        cases change <;> simp only [weight] <;> split <;> omega
      rw [ofChanges_snoc, (sound_ofChanges changes).total_record_max, List.length_append,
        List.length_singleton]
      omega

/-- Only the changes of a room count for it. -/
theorem total_filter (changes : List PresenceChange) (place : String) :
    (ofChanges (changes.filter (·.room = place))).total place =
      (ofChanges changes).total place := by
  induction changes using List.reverseRecOn with
  | nil => rfl
  | append_singleton changes change ih =>
      rw [List.filter_append, ofChanges_snoc, (sound_ofChanges changes).total_record_max]
      by_cases own : change.room = place
      · rw [List.filter_cons_of_pos (by simpa using own), List.filter_nil, ofChanges_snoc,
          (sound_ofChanges _).total_record_max, ih]
      · have floor := (sound_ofChanges changes).total_nonneg place
        rw [List.filter_cons_of_neg (by simpa using own), List.filter_nil, List.append_nil, ih,
          weight_of_ne own]
        omega

/-- A room is recorded exactly while some of its last changes add up to more than nothing, with the
    most that they add up to as its counter. Changes of other rooms are no matter, the active rooms
    are the recorded ones in the order of their bytes, and no counter gets beyond the number of
    changes. -/
theorem counters_are_greatest_recent_sums (changes : List PresenceChange) :
    let ledger := ofChanges changes
    (∀ room count, ledger.count? room = some count ↔
      0 < count ∧ IsGreatest (recentSums room changes) count) ∧
    (∀ room, ledger.isActive room = true ↔ (ledger.count? room).isSome = true) ∧
    (∀ room count, ⟨room, count⟩ ∈ ledger.active ↔ 0 < count ∧ ledger.count? room = some count) ∧
    (ledger.active.Pairwise fun a b => Utf8.ofString a.room < Utf8.ofString b.room) ∧
    (∀ change, (ledger.apply change).2 = ofChanges (changes ++ [change])) ∧
    (∀ room, (ledger.apply (.joined room)).1 = (ledger.count? room).getD 0 + 1 ∧
      (ledger.apply (.left room)).1 = (ledger.count? room).getD 0 - 1) ∧
    (∀ change, -1 ≤ (ledger.apply change).1 ∧ (ledger.apply change).1 ≤ changes.length + 1) ∧
    ∀ room, (ofChanges (changes.filter (·.room = room))).count? room = ledger.count? room := by
  intro ledger
  have sound : ledger.Sound := sound_ofChanges changes
  refine ⟨fun room count => ?_, fun room => ?_, fun room count => ?_,
    ledger.ordered_active.imp Utf8.ofString_lt, fun change => (ofChanges_snoc changes change).symm,
    fun room => ⟨rfl, ?_⟩, fun change => ?_, fun room => ?_⟩
  · rw [(Peaks.run room changes).isGreatest_iff, sound.count?_eq]
    exact Option.ite_none_right_eq_some.trans (and_congr_right fun _ => Option.some_inj)
  · exact Std.ExtTreeSet.contains_iff_mem.trans (sound.rooms room)
  · rw [sound.mem_active, sound.count?_eq]
    split <;> grind
  · rw [apply]
    split <;> rfl
  · have floor := sound.total_nonneg change.room
    have most : ledger.total change.room ≤ changes.length := total_le_length changes change.room
    rw [ledger.apply_fst]
    rcases change.weight_room with up | down <;> omega
  · rw [sound.count?_eq, (sound_ofChanges _).count?_eq, total_filter]

/-- A departure that nobody announced as an arrival takes nothing from later arrivals. -/
example :
    let ledger := ofChanges [.left "a", .joined "a", .joined "b", .joined "a", .left "a"]
    ledger.active = [⟨"a", 1⟩, ⟨"b", 1⟩] := by
  decide

end PresenceLedger
end ChatRelay
