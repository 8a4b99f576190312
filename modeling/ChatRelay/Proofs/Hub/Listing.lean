import ChatRelay.Proofs.Hub.Accounting
import ChatRelay.Proofs.Hub.Attendance
import ChatRelay.Proofs.Text.ByteOrder

/-! # What a hub lists

A hub that runs and has nothing to do answers a request for a snapshot with the rooms of its
registry. Where it keeps a ledger that nobody else writes to, the ledger lists the same.
-/

namespace ChatRelay

/-- The rooms of the registry with the numbers of their members, ascending by the bytes of their
    names. -/
structure Registry.Lists (registry : Registry) (listed : List (String × Nat)) : Prop where
  mem : ∀ room members, (room, members) ∈ listed ↔
    room ∈ registry.rooms ∧ members = registry.members room
  ordered : listed.Pairwise fun a b => Utf8.ofString a.1 < Utf8.ofString b.1

theorem Registry.lists_snapshot (registry : Registry) :
    registry.Lists registry.snapshot.rooms where
  mem room members := by
    simp only [snapshot, List.mem_map, Prod.exists, Prod.mk.injEq,
      Std.ExtTreeMap.mem_toList_iff_getElem?_eq_some, Std.ExtTreeMap.mem_iff_isSome_getElem?,
      Registry.members]
    constructor
    · rintro ⟨_, clients, found, rfl, rfl⟩
      simp [found]
    · rintro ⟨there, rfl⟩
      obtain ⟨clients, found⟩ := Option.isSome_iff_exists.mp there
      exact ⟨room, clients, found, rfl, by simp [found]⟩
  ordered := by
    rw [snapshot, List.pairwise_map]
    exact Std.ExtTreeMap.ordered_keys_toList.imp Utf8.ofString_lt

/-- A room is found in a list exactly with the number that is listed. -/
theorem Registry.Lists.lookup_eq_some_iff {registry : Registry} {listed : List (String × Nat)}
    (lists : registry.Lists listed) {room : String} {members : Nat} :
    listed.lookup room = some members ↔ (room, members) ∈ listed := by
  have from_lookup {members : Nat} (found : listed.lookup room = some members) :
      (room, members) ∈ listed := by
    obtain ⟨before, after, split, -⟩ := List.lookup_eq_some_iff.mp found
    rw [split]
    exact List.mem_append_right before List.mem_cons_self
  refine ⟨from_lookup, fun member => ?_⟩
  have there : (listed.lookup room).isSome = true :=
    List.lookup_isSome_iff.mpr ⟨_, member, beq_self_eq_true room⟩
  obtain ⟨other, found⟩ := Option.isSome_iff_exists.mp there
  rw [found, ((lists.mem room other).mp (from_lookup found)).2,
    ((lists.mem room members).mp member).2]

/-- A hub that waits for requests answers one for a snapshot with its registry. -/
theorem Node.submit_snapshot {node : Node} (running : node.loop.running = true)
    (quiet : node.loop.pending = []) (room : 0 < node.loop.capacity) (ticket : Nat)
    (queues : Queues) : (node.submit (.snapshot ticket) queues).1 =
      .ok [.answered ticket node.loop.hub.registry.snapshot] := by
  have accepted : node.loop.submit (.snapshot ticket) =
      (.accepted, { node.loop with pending := [.snapshot ticket] }) := by
    simp [EventLoop.submit, running, quiet, Nat.ne_of_gt room]
  -- Whether or not the loop ends after the answer, nothing more is reported.
  have silent (later : Node) (queues : Queues) (running : later.loop.running = true)
      (quiet : later.loop.pending = []) : (later.run 1 queues).1 = [] := by
    by_cases unheld : later.loop.handles = 0
    · simp [Node.run, Node.advance, EventLoop.advance_nil running quiet, unheld, EventLoop.stop]
    · simp [Node.run, Node.advance, EventLoop.advance_nil running quiet, unheld]
  have taken := @Node.advance_cons
    { node with loop := { node.loop with pending := [.snapshot ticket] } } (.snapshot ticket) []
    running rfl queues
  simp only [Node.submit, accepted, Node.settle, List.length_singleton]
  rw [Node.run, taken]
  simp only [Hub.process, Hub.handle]
  rw [silent, List.append_nil]
  · simp [Node.absorbStep, Node.absorb, running]
  · simp [Node.absorbStep, Node.absorb]

theorem World.capacity_step (world : World) (move : WorldMove) :
    (world.step move).loop.capacity = world.loop.capacity := by
  cases move with
  | connect | push | forget | retain =>
      simp only [step]
      split <;> rfl
  | submit command =>
      rcases world.submit_cases command with ⟨-, ⟨-, steps⟩ | ⟨-, steps⟩⟩ | ⟨-, steps⟩ <;>
        rw [steps]
  | advance fanout =>
      cases running : world.loop.running with
      | false => simp only [step, EventLoop.advance_ended running]
      | true =>
          cases next : world.loop.pending with
          | cons command rest => simp only [step, EventLoop.advance_cons running next]
          | nil =>
              simp only [step, EventLoop.advance_nil running next]
              by_cases unheld : world.loop.handles = 0
              · rw [if_pos unheld]
                rfl
              · rw [if_neg unheld]
  | _ => rfl

namespace Venue

variable {venue : Venue}

theorem sound_play (node : Node) (capacity : Nat) (moves : List VenueMove) :
    ∃ roster, (play step (start node capacity) moves).2.world.Sound roster :=
  (play_induction (motive := fun log venue => Sound node log venue)
    (fun _ _ move sound => sound.step move) (.start node capacity) moves).world

theorem capacity_step (venue : Venue) (move : VenueMove) :
    (venue.step move).2.node.loop.capacity = venue.node.loop.capacity := by
  cases move with
  | world move =>
      have stepped := (venue.world_step move).2
      have kept := venue.world.capacity_step (venue.actual move)
      rwa [← stepped] at kept
  | _ => rfl

theorem capacity_play (node : Node) (capacity : Nat) (moves : List VenueMove) :
    0 < (play step (start node capacity) moves).2.node.loop.capacity :=
  play_induction (motive := fun _ (venue : Venue) => 0 < venue.node.loop.capacity)
    (fun _ venue move room => (capacity_step venue move).symm ▸ room)
    (Nat.lt_of_lt_of_le Nat.zero_lt_one (Nat.le_max_right capacity 1)) moves

/-- What every step of an instance keeps whose ledger nobody else writes to. -/
structure Alone (venue : Venue) : Prop where
  world : ∃ roster, venue.world.Sound roster
  attended : venue.Attended
  attached : venue.node.presence.isSome = true

namespace Alone

theorem start {node : Node} (fresh : node.presence = some {}) (capacity : Nat) :
    (Venue.start node capacity).Alone where
  world := ⟨∅, .start capacity⟩
  attended _ ledger found := by
    rw [show (Venue.start node capacity).node.presence = some {} from fresh] at found
    cases found
    exact ⟨.empty, fun room => rfl⟩
  attached := by
    rw [show (Venue.start node capacity).node.presence = some {} from fresh]
    rfl

theorem step (alone : venue.Alone) (move : VenueMove) : (venue.step move).2.Alone := by
  cases move with
  | world move =>
      obtain ⟨roster, sound⟩ := alone.world
      obtain ⟨roster', sound', -⟩ := sound.step (venue.actual move)
      rw [← (venue.world_step move).2] at sound'
      refine ⟨⟨roster', sound'⟩, alone.attended.step sound move, ?_⟩
      cases processed : venue.world.processing? (venue.actual move) with
      | none =>
          rw [node_idle processed]
          exact alone.attached
      | some command =>
          obtain ⟨answer, rest, same, -, -⟩ := World.processing?_eq_some processed
          cases move with
          | advance answer =>
              rw [node_processing answer processed]
              simp [Node.absorbStep, Node.presence_foldl_absorb, alone.attached]
          | _ => cases same
  | _ => exact ⟨alone.world, alone.attended, alone.attached⟩

theorem play {node : Node} (fresh : node.presence = some {}) (capacity : Nat)
    (moves : List VenueMove) :
    (ChatRelay.play Venue.step (Venue.start node capacity) moves).2.Alone :=
  play_induction (motive := fun _ (venue : Venue) => venue.Alone)
    (fun _ _ move alone => alone.step move) (.start fresh capacity) moves

/-- The ledger lists what the hub lists. -/
theorem active_eq (alone : venue.Alone) (running : venue.node.loop.running = true) :
    venue.node.presence.map PresenceLedger.active =
      some (venue.node.loop.hub.registry.snapshot.rooms.map fun (room, members) =>
        ⟨room, members⟩) := by
  obtain ⟨roster, sound⟩ := alone.world
  obtain ⟨ledger, found⟩ := Option.isSome_iff_exists.mp alone.attached
  obtain ⟨counts, total⟩ := alone.attended running ledger found
  rw [found, Option.map_some, sound.mirrors.active_eq_snapshot counts total]
  rfl

end Alone
end Venue
end ChatRelay
