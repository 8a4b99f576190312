import ChatRelay.Proofs.Presence.Changes
import ChatRelay.Proofs.Run
import ChatRelay.Proofs.Text.ByteOrder

/-! # Hubs that write to one ledger

Any number of hubs record their changes of membership in one ledger and are its only writers. A hub
records the changes of a command one at a time before it takes the next command, and other hubs may
record between any two of them. Counters never drop below zero on the way, and while no hub has
anything left to record, the ledger is the sum of the registries.
-/

namespace ChatRelay

/-- A hub with the changes that it has reported and not yet recorded. -/
structure PresenceWriter where
  hub : Hub := {}
  outstanding : List PresenceChange := []

namespace PresenceWriter

/-- Number of members of a room in the registry of the hub. -/
def members (writer : PresenceWriter) (room : String) : Nat := writer.hub.registry.members room

/-- What the changes recorded so far add up to. -/
def recorded (writer : PresenceWriter) (room : String) : Int :=
  writer.members room - PresenceChange.net room writer.outstanding

theorem recorded_nonneg {writer : PresenceWriter} {room : String}
    (present : writer.outstanding.count (.joined room) ≤ writer.members room) :
    0 ≤ writer.recorded room := by
  have arrivals := PresenceChange.net_le_count room writer.outstanding
  unfold recorded
  omega

end PresenceWriter

/-- Hubs that write to one ledger. -/
structure SharedPresence (writers : Nat) where
  writer : Fin writers → PresenceWriter := fun _ => {}
  ledger : PresenceLedger := {}

/-- Something that one of the hubs does. -/
inductive PresenceMove (writers : Nat) where
  /-- Process a command. The queues are as they are then, and the fanout answers what it will. -/
  | process (index : Fin writers) (command : Command) (fanout : Option Bool) (queues : Queues)
  /-- Record the next change. -/
  | record (index : Fin writers)

namespace SharedPresence

variable {writers : Nat}

/-- The state with another state of one writer. -/
def update (shared : SharedPresence writers) (index : Fin writers) (writer : PresenceWriter) :
    SharedPresence writers :=
  { shared with writer := Function.update shared.writer index writer }

/-- One move. It shows the counter that recording a change returned. A command has to wait until
    the changes of the one before are recorded. -/
def step (shared : SharedPresence writers) : PresenceMove writers → List Int × SharedPresence writers
  | .process index command fanout queues =>
      if (shared.writer index).outstanding = [] then
        let step := (shared.writer index).hub.process fanout command queues
        ([], shared.update index
          { hub := step.hub, outstanding := step.events.filterMap Event.change? })
      else ([], shared)
  | .record index =>
      match (shared.writer index).outstanding with
      | [] => ([], shared)
      | change :: later =>
          let (count, ledger) := shared.ledger.apply change
          ([count], { shared with ledger }.update index
            { shared.writer index with outstanding := later })

/-- Number of members of a room in all registries together. -/
def members (shared : SharedPresence writers) (room : String) : Nat :=
  ∑ index, (shared.writer index).members room

/-- No hub has anything left to record. -/
def Idle (shared : SharedPresence writers) : Prop :=
  ∀ index, (shared.writer index).outstanding = []

/-- What holds between any two moves: the ledger has the sum of what the hubs have recorded, and no
    hub has yet to record more arrivals in a room than it has members there. -/
structure Balanced (shared : SharedPresence writers) : Prop where
  mirrored : ∀ index, ∃ roster, (shared.writer index).hub.registry.Mirrors roster
  present : ∀ index room, (shared.writer index).outstanding.count (.joined room) ≤
    (shared.writer index).members room
  sound : shared.ledger.Sound
  sum : ∀ room, shared.ledger.total room = ∑ index, (shared.writer index).recorded room

theorem writer_update (shared : SharedPresence writers) (index other : Fin writers)
    (writer : PresenceWriter) :
    (shared.update index writer).writer other =
      if other = index then writer else shared.writer other :=
  Function.update_apply ..

theorem sum_update (shared : SharedPresence writers) (index : Fin writers) (writer : PresenceWriter)
    (amount : PresenceWriter → Int) :
    ∑ other, amount ((shared.update index writer).writer other) =
      ∑ other, amount (shared.writer other) + (amount writer - amount (shared.writer index)) := by
  have after := Finset.add_sum_erase Finset.univ
    (fun other => amount ((shared.update index writer).writer other)) (Finset.mem_univ index)
  have before := Finset.add_sum_erase Finset.univ
    (fun other => amount (shared.writer other)) (Finset.mem_univ index)
  have others : ∑ other ∈ Finset.univ.erase index,
        amount ((shared.update index writer).writer other) =
      ∑ other ∈ Finset.univ.erase index, amount (shared.writer other) := by
    apply Finset.sum_congr rfl
    intro other member
    rw [writer_update, if_neg (Finset.ne_of_mem_erase member)]
  rw [writer_update, if_pos rfl] at after
  omega

namespace Balanced

variable {shared : SharedPresence writers}

theorem start : Balanced ({} : SharedPresence writers) where
  mirrored _ := ⟨∅, Registry.Mirrors.empty⟩
  present := by simp
  sound := .empty
  sum room := by
    have nothing : PresenceWriter.recorded {} room = 0 := by
      simp [PresenceWriter.recorded, PresenceWriter.members, Registry.members]
    simp [PresenceLedger.total, PresenceLedger.count?, nothing]

theorem process (balanced : shared.Balanced) {index : Fin writers}
    (ready : (shared.writer index).outstanding = []) (fanout : Option Bool) (command : Command)
    (queues : Queues) :
    let step := (shared.writer index).hub.process fanout command queues
    (shared.update index
      { hub := step.hub, outstanding := step.events.filterMap Event.change? }).Balanced := by
  intro step
  obtain ⟨roster, mirrors⟩ := balanced.mirrored index
  obtain ⟨reported, after, mirrored, account⟩ := mirrors.reports fanout command queues
  rw [← reported] at account
  change PresenceChange.Account roster after (step.events.filterMap Event.change?) at account
  have members (room : String) : step.hub.registry.members room = (after.clients room).card :=
    mirrored.members_eq room
  constructor
  · intro other
    rw [writer_update]
    split
    · exact ⟨after, mirrored⟩
    · exact balanced.mirrored other
  · intro other room
    rw [writer_update]
    split
    · exact (account.present room).trans_eq (members room).symm
    · exact balanced.present other room
  · exact balanced.sound
  · intro room
    have sum := account.sum room
    rw [sum_update shared index _ (·.recorded room), ← balanced.sum]
    simp only [PresenceWriter.recorded, PresenceWriter.members, members, mirrors.members_eq, ready,
      PresenceChange.net_nil]
    change shared.ledger.total room = _
    omega

theorem record (balanced : shared.Balanced) {index : Fin writers} {change : PresenceChange}
    {later : List PresenceChange} (next : (shared.writer index).outstanding = change :: later) :
    0 ≤ (shared.ledger.apply change).1 ∧
      ({ shared with ledger := shared.ledger.record change }.update index
        { shared.writer index with outstanding := later }).Balanced := by
  let moved := shared.update index { shared.writer index with outstanding := later }
  have grows (room : String) : ∑ other, (moved.writer other).recorded room =
      shared.ledger.total room + change.weight room := by
    rw [sum_update shared index _ (·.recorded room), balanced.sum]
    simp only [PresenceWriter.recorded, PresenceWriter.members, next, PresenceChange.net_cons]
    omega
  have present (other : Fin writers) (room : String) :
      (moved.writer other).outstanding.count (.joined room) ≤ (moved.writer other).members room := by
    have before := balanced.present other room
    rw [writer_update]
    split
    · next same =>
        rw [same, next] at before
        exact List.count_le_count_cons.trans before
    · exact before
  have fits : 0 ≤ (shared.ledger.apply change).1 := by
    rw [PresenceLedger.apply_fst, ← grows]
    exact Finset.sum_nonneg fun other _ => PresenceWriter.recorded_nonneg (present other _)
  refine ⟨fits, ?_, present, balanced.sound.record change, ?_⟩
  · intro other
    rw [writer_update]
    split
    · exact balanced.mirrored index
    · exact balanced.mirrored other
  · intro room
    exact (balanced.sound.total_record change fits room).trans (grows room).symm

theorem step (balanced : shared.Balanced) (move : PresenceMove writers) :
    (shared.step move).2.Balanced ∧ ∀ count ∈ (shared.step move).1, 0 ≤ count := by
  cases move with
  | process index command fanout queues =>
      simp only [SharedPresence.step]
      split
      · next ready => exact ⟨balanced.process ready fanout command queues, by simp⟩
      · exact ⟨balanced, by simp⟩
  | record index =>
      simp only [SharedPresence.step]
      split
      · exact ⟨balanced, by simp⟩
      · next change later next =>
          obtain ⟨fits, kept⟩ := balanced.record next
          exact ⟨kept, by simpa using fits⟩

/-- While no hub has anything left to record, the counters are the members. -/
theorem total_eq (balanced : shared.Balanced) (idle : shared.Idle) (room : String) :
    shared.ledger.total room = shared.members room := by
  rw [balanced.sum, SharedPresence.members, Nat.cast_sum]
  apply Finset.sum_congr rfl
  intro index _
  simp [PresenceWriter.recorded, idle index]

end Balanced

/-- The ledger is what the registries of its writers add up to. -/
structure Agrees (shared : SharedPresence writers) : Prop where
  /-- A room has its members as its counter, and no counter without members. -/
  count : ∀ room, shared.ledger.count? room =
    if 0 < shared.members room then some (shared.members room : Int) else none
  /-- The rooms with members are active, with their counters. -/
  active : ∀ room (members : Int), ⟨room, members⟩ ∈ shared.ledger.active ↔
    0 < shared.members room ∧ members = shared.members room
  /-- The active rooms ascend by the bytes of their names. -/
  ordered : shared.ledger.active.Pairwise fun a b =>
    Utf8.ofString a.room < Utf8.ofString b.room
  /-- For a writer without another the active rooms are the snapshot of its registry. -/
  alone : ∀ index : Fin writers, (∀ other, other = index) →
    shared.ledger.active = (shared.writer index).hub.registry.snapshot.rooms.map
      fun (room, members) => ⟨room, members⟩

theorem Balanced.agrees {shared : SharedPresence writers} (balanced : shared.Balanced)
    (idle : shared.Idle) : shared.Agrees := by
  have total := balanced.total_eq idle
  constructor
  · intro room
    simp only [balanced.sound.count?_eq, total, Int.natCast_pos]
  · intro room members
    simp only [balanced.sound.mem_active, total, Int.natCast_pos]
  · exact shared.ledger.ordered_active.imp Utf8.ofString_lt
  · intro index only
    obtain ⟨roster, mirrors⟩ := balanced.mirrored index
    have sole (room : String) :
        shared.members room = (shared.writer index).hub.registry.members room :=
      Fintype.sum_eq_single index fun other different => absurd (only other) different
    exact mirrors.active_eq_snapshot balanced.sound fun room => by rw [total, sole]

/-- Hubs that are the only writers of a ledger keep it true to their registries: whatever commands
    they process and however their records interleave, no counter that a record returns is negative,
    the next step of any hub reports the changes that are due, and the ledger agrees with the
    registries whenever nothing is left to record. -/
theorem ledger_follows_registries (writers : Nat) (moves : List (PresenceMove writers)) :
    let run := play SharedPresence.step {} moves
    (∀ count ∈ run.1, 0 ≤ count) ∧
    (∀ index fanout command queues,
      let hub := (run.2.writer index).hub
      let step := hub.process fanout command queues
      step.events.filterMap Event.change? = command.due hub.registry step.hub.registry) ∧
    (run.2.Idle → run.2.Agrees) := by
  intro run
  have keeps (counts : List Int) (shared : SharedPresence writers) (move : PresenceMove writers)
      (good : (∀ count ∈ counts, 0 ≤ count) ∧ shared.Balanced) :
      (∀ count ∈ counts ++ (shared.step move).1, 0 ≤ count) ∧ (shared.step move).2.Balanced := by
    obtain ⟨balanced, later⟩ := good.2.step move
    exact ⟨List.forall_mem_append.mpr ⟨good.1, later⟩, balanced⟩
  obtain ⟨counts, balanced⟩ := play_induction keeps ⟨List.forall_mem_nil _, .start⟩ moves
  refine ⟨counts, ?_, balanced.agrees⟩
  intro index fanout command queues
  obtain ⟨roster, mirrors⟩ := balanced.mirrored index
  exact (mirrors.reports fanout command queues).1

/-- Two hubs have a client each in one room. One of the clients moves on, and the changes of that
    stay behind those of the other hub. -/
theorem ledger_follows_registries_moving :
    let moves : List (PresenceMove 2) :=
      [.process 0 (.join "a" ⟨1, 1⟩) none ∅, .process 1 (.join "a" ⟨2, 2⟩) none ∅, .record 1,
        .record 0, .process 0 (.switch 1 "b") none ∅, .record 0,
        .process 1 (.disconnect 2) none ∅, .record 1, .record 0]
    let run := play SharedPresence.step {} moves
    run.1 = [1, 2, 1, 0, 1] ∧ run.2.Idle ∧ run.2.Agrees := by
  intro moves run
  have idle : run.2.Idle := by
    unfold Idle
    decide
  exact ⟨by decide, idle, (ledger_follows_registries 2 moves).2.2 idle⟩

end SharedPresence
end ChatRelay
