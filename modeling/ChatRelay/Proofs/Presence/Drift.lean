import ChatRelay.Proofs.Presence.RecentSums
import ChatRelay.Proofs.Presence.SoleWorker

/-! # Drift

Changes for which there is no room in a queue are lost, and a ledger that never hears of them drifts
from one that does. Every lost change moves a counter by one at most. Changes that both ledgers hear
of never drive them apart, and once both have nothing for a room they agree on it for good.
-/

namespace ChatRelay

namespace PresenceLedger

variable {room : String} {a b : PresenceLedger}

/-- How far the counters of a room are apart. -/
def drift (room : String) (a b : PresenceLedger) : Nat := (a.total room - b.total room).natAbs

/-- The same change does not drive two ledgers apart. -/
theorem drift_record_le (soundA : a.Sound) (soundB : b.Sound) (change : PresenceChange) :
    drift room (a.record change) (b.record change) ≤ drift room a b := by
  have floorA := soundA.total_nonneg room
  have floorB := soundB.total_nonneg room
  simp only [drift, soundA.total_record_max, soundB.total_record_max]
  omega

/-- A change that only one ledger hears of moves one counter by one at most. -/
theorem drift_record_right_le (soundB : b.Sound) (change : PresenceChange) :
    drift room a (b.record change) ≤
      drift room a b + if change.room = room then 1 else 0 := by
  have floor := soundB.total_nonneg room
  simp only [drift, soundB.total_record_max]
  split
  · next own =>
      subst own
      rcases change.weight_room with up | down <;> omega
  · next other =>
      rw [PresenceChange.weight_of_ne other]
      omega

theorem drift_foldl_le (soundA : a.Sound) (soundB : b.Sound) (changes : List PresenceChange) :
    drift room (changes.foldl record a) (changes.foldl record b) ≤ drift room a b := by
  induction changes generalizing a b with
  | nil => exact Nat.le_refl _
  | cons change changes ih =>
      apply Nat.le_trans (ih (soundA.record change) (soundB.record change))
      exact drift_record_le soundA soundB change

/-- What is kept of some changes takes a ledger as far from one that hears of all as changes of the
    room are missing, and no farther. -/
theorem drift_sublist_le {kept changes : List PresenceChange} (part : kept.Sublist changes)
    (soundA : a.Sound) (soundB : b.Sound) :
    drift room (kept.foldl record a) (changes.foldl record b) + kept.countP (·.room = room) ≤
      drift room a b + changes.countP (·.room = room) := by
  induction part generalizing a b with
  | slnil => exact Nat.le_refl _
  | @cons kept changes lost _ ih =>
      have later := ih soundA (soundB.record lost)
      have moved : drift room a (b.record lost) ≤ _ := drift_record_right_le soundB lost
      simp only [List.foldl_cons, List.countP_cons, decide_eq_true_eq]
      omega
  | @cons_cons kept changes change _ ih =>
      have later := ih (soundA.record change) (soundB.record change)
      have moved : drift room (a.record change) (b.record change) ≤ _ :=
        drift_record_le soundA soundB change
      simp only [List.foldl_cons, List.countP_cons]
      omega

theorem count?_eq_of_drift_eq_zero (soundA : a.Sound) (soundB : b.Sound)
    (together : drift room a b = 0) : a.count? room = b.count? room := by
  have same : a.total room = b.total room := by
    unfold drift at together
    omega
  rw [soundA.count?_eq, soundB.count?_eq, same]

end PresenceLedger

namespace SoleWorker

/-- The changes that are recorded as long as somebody can record them. -/
def recorded : List SoleMove → List PresenceChange
  | [] => []
  | .release :: _ => []
  | .record change :: moves => change :: recorded moves
  | .begin :: moves => recorded moves
  | .exchange _ :: moves => recorded moves

/-- A move that is no recording puts nothing into the queue. -/
theorem accepted_step {keys : PresenceKeys} {sole : SoleWorker} {move : SoleMove}
    (quiet : ∀ change, move ≠ .record change) : accepted (sole.step keys move).1 = [] := by
  cases move with
  | record change => exact absurd rfl (quiet change)
  | begin =>
      simp only [step]
      split <;> rfl
  | exchange fate =>
      simp only [step]
      split
      · rfl
      · cases fate with
        | answered =>
            dsimp only
            split <;> rfl
        | unanswered => rfl
        | undone => rfl
  | release => rfl

theorem accepted_record (keys : PresenceKeys) (sole : SoleWorker) (change : PresenceChange) :
    (accepted (sole.step keys (.record change)).1).Sublist [change] := by
  simp only [step]
  split
  · exact List.Sublist.refl _
  · exact List.nil_sublist _

/-- Nothing is put into the queue when nobody can record changes. -/
theorem accepted_released (keys : PresenceKeys) {sole : SoleWorker} (released : sole.held = false)
    (moves : List SoleMove) : accepted (play (step keys) sole moves).1 = [] := by
  induction moves generalizing sole with
  | nil => rfl
  | cons move moves ih =>
      have still : (sole.step keys move).2.held = false := by
        cases move with
        | record change => simp [step, released]
        | begin =>
            simp only [step]
            split <;> exact released
        | exchange fate =>
            simp only [step]
            split
            · exact released
            · cases fate <;> exact released
        | release => rfl
      have none : accepted (sole.step keys move).1 = [] := by
        cases move with
        | record change => simp [step, released, accepted]
        | _ => exact accepted_step (by simp)
      rw [play, accepted_append, none, ih still, List.append_nil]

/-- The queue takes some of the changes that are recorded, in their order. -/
theorem accepted_sublist (keys : PresenceKeys) (sole : SoleWorker) (moves : List SoleMove) :
    (accepted (play (step keys) sole moves).1).Sublist (recorded moves) := by
  induction moves generalizing sole with
  | nil => exact List.Sublist.refl _
  | cons move moves ih =>
      rw [play, accepted_append]
      cases move with
      | record change => exact (accepted_record keys sole change).append (ih _)
      | begin =>
          rw [accepted_step (by simp), List.nil_append]
          exact ih _
      | exchange fate =>
          rw [accepted_step (by simp), List.nil_append]
          exact ih _
      | release =>
          have released : (sole.step keys .release).2.held = false := rfl
          rw [accepted_step (by simp), accepted_released keys released]
          exact List.nil_sublist _

end SoleWorker

namespace PresenceLedger

/-- A ledger from which some changes of a room were kept is off by no more than these, and what a
    worker has room for in its queue is such a part of what is recorded. Further changes never take
    two ledgers farther apart, and from where both have nothing for a room they agree on it. -/
theorem drift_is_bounded_by_losses :
    (∀ (kept changes : List PresenceChange) (room : String) (lost : Nat), kept.Sublist changes →
      changes.countP (·.room = room) = kept.countP (·.room = room) + lost →
        drift room (ofChanges kept) (ofChanges changes) ≤ lost) ∧
    (∀ keys capacity store moves,
      (SoleWorker.accepted (SoleWorker.run keys capacity store moves).1).Sublist
        (SoleWorker.recorded moves)) ∧
    (∀ (before before' later : List PresenceChange) (room : String),
      drift room (ofChanges (before ++ later)) (ofChanges (before' ++ later)) ≤
        drift room (ofChanges before) (ofChanges before')) ∧
    ∀ (before before' later : List PresenceChange) (room : String),
      (ofChanges before).total room = 0 → (ofChanges before').total room = 0 →
        (ofChanges (before ++ later)).count? room = (ofChanges (before' ++ later)).count? room := by
  have apart (before before' later : List PresenceChange) (room : String) :
      drift room (ofChanges (before ++ later)) (ofChanges (before' ++ later)) ≤
        drift room (ofChanges before) (ofChanges before') := by
    simp only [ofChanges, List.foldl_append]
    exact drift_foldl_le (sound_ofChanges before) (sound_ofChanges before') later
  refine ⟨?_, ?_, apart, ?_⟩
  · intro kept changes room lost part missing
    have bound : drift room (kept.foldl record {}) (changes.foldl record {}) + _ ≤ _ :=
      drift_sublist_le part .empty .empty
    have start : drift room {} {} = 0 := by simp [drift]
    unfold ofChanges
    omega
  · intro keys capacity store moves
    exact SoleWorker.accepted_sublist keys _ moves
  · intro before before' later room none none'
    have together : drift room (ofChanges before) (ofChanges before') = 0 := by
      simp [drift, none, none']
    apply count?_eq_of_drift_eq_zero (sound_ofChanges _) (sound_ofChanges _)
    have bound := apart before before' later room
    omega

/-- A queue for one change loses an arrival and a departure, and the last change goes to both. -/
theorem drift_is_bounded_by_losses_full :
    let moves : List SoleMove :=
      [.record (.joined "a"), .record (.joined "a"), .record (.left "b"), .begin,
        .record (.left "a")]
    let kept := SoleWorker.accepted (SoleWorker.run ⟨[1], [2]⟩ 1 {} moves).1
    let changes := SoleWorker.recorded moves
    kept = [.joined "a", .left "a"] ∧ kept.Sublist changes ∧
      drift "a" (ofChanges kept) (ofChanges changes) ≤ 1 ∧
      ∀ later, (ofChanges (kept ++ later)).count? "b" =
        (ofChanges (changes ++ later)).count? "b" := by
  intro moves kept changes
  obtain ⟨bounded, part, -, agree⟩ := drift_is_bounded_by_losses
  have part : kept.Sublist changes := part ⟨[1], [2]⟩ 1 {} moves
  refine ⟨by decide +kernel, part, ?_, fun later => ?_⟩
  · exact bounded kept changes "a" 1 part (by decide +kernel)
  · exact agree kept changes later "b" (by decide +kernel) (by decide +kernel)

end PresenceLedger
end ChatRelay
