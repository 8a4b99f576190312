import ChatRelay.Proofs.Hub.Traffic

/-! # Queues keep their bound

A queue has the bound with which it was opened, and it never holds more than that, whoever puts
payloads in.
-/

namespace ChatRelay

namespace Outbound

/-- The queue has a certain bound and keeps it. -/
structure Keeps (queue : Outbound) (size : Nat) : Prop where
  bound : queue.bound = size
  within : queue.backlog.length ≤ size

namespace Keeps

variable {queue : Outbound} {size : Nat}

theorem ofCapacity (capacity : Nat) : (Outbound.ofCapacity capacity).Keeps (max capacity 1) :=
  ⟨rfl, Nat.zero_le _⟩

theorem offer (keeps : queue.Keeps size) (data : Bytes) : (queue.offer data).2.Keeps size := by
  unfold Outbound.offer
  split
  · exact keeps
  · split
    · exact keeps
    · next room =>
        refine ⟨keeps.bound, ?_⟩
        rw [List.length_append, List.length_singleton]
        exact Nat.lt_of_not_le (keeps.bound ▸ room)

theorem receive (keeps : queue.Keeps size) : queue.receive.2.Keeps size := by
  unfold Outbound.receive
  split
  · next data rest backlog =>
      refine ⟨keeps.bound, ?_⟩
      have within := keeps.within
      rw [backlog, List.length_cons] at within
      exact Nat.le_of_succ_le within
  · exact keeps

theorem close (keeps : queue.Keeps size) : queue.close.Keeps size := ⟨keeps.bound, keeps.within⟩

theorem discard (keeps : queue.Keeps size) : queue.discard.Keeps size :=
  ⟨keeps.bound, Nat.zero_le _⟩

theorem release (keeps : queue.Keeps size) : queue.release.Keeps size :=
  ⟨keeps.bound, keeps.within⟩

end Keeps
end Outbound

namespace World

/-- The capacity with which a queue is opened first. -/
def capacity? (id : QueueId) (moves : List WorldMove) : Option Nat :=
  moves.findSome? fun
    | .connect handle capacity => if handle.queue = id then some capacity else none
    | _ => none

/-- Queues that keep the bound with which they were opened. A queue that nobody opened does not
    exist. -/
def Sized (world : World) (moves : List WorldMove) : Prop :=
  ∀ id, match world.queues[id]?, capacity? id moves with
    | some queue, some capacity => queue.Keeps (max capacity 1)
    | none, none => True
    | _, _ => False

theorem touched_keeps (world : World) (roster : Roster) (id : QueueId) {queue : Outbound}
    {size : Nat} (keeps : queue.Keeps size) (move : WorldMove) :
    (world.touched roster id queue move).Keeps size := by
  have offered (command : Command) : (command.offered roster id queue).Keeps size := by
    cases command with
    | broadcast envelope =>
        simp only [Command.offered]
        split
        · exact keeps.offer envelope.payload
        · exact keeps
    | _ => exact keeps
  cases move with
  | push handle payload =>
      simp only [touched]
      split
      · exact keeps.offer payload
      · exact keeps
  | advance fanout =>
      simp only [touched]
      split
      · exact offered _
      · exact keeps
  | receive other =>
      simp only [touched]
      split
      · exact keeps.receive
      · exact keeps
  | close other =>
      simp only [touched]
      split
      · exact keeps.close
      · exact keeps
  | discard other =>
      simp only [touched]
      split
      · exact keeps.discard
      · exact keeps
  | _ => exact keeps

theorem capacity?_snoc (id : QueueId) (moves : List WorldMove) (move : WorldMove) :
    capacity? id (moves ++ [move]) = (capacity? id moves).or (capacity? id [move]) := by
  simp [capacity?]

theorem born?_eq (id : QueueId) (move : WorldMove) :
    born? id move = (capacity? id [move]).map Outbound.ofCapacity := by
  cases move with
  | connect handle capacity =>
      simp only [born?, capacity?, List.findSome?_cons, List.findSome?_nil]
      split <;> rfl
  | _ => rfl

namespace Sized

variable {world : World} {roster : Roster} {moves : List WorldMove}

theorem start (capacity : Nat) : (World.start capacity).Sized [] := by
  intro id
  simp [World.start, capacity?]

theorem step (sized : world.Sized moves) (sound : world.Sound roster) (move : WorldMove) :
    (world.step move).Sized (moves ++ [move]) := by
  obtain ⟨released, -, changed⟩ := sound.queues_step move
  intro id
  have released {queue : Outbound} {size : Nat} (keeps : queue.Keeps size) :
      Outbound.Keeps (if id ∈ released.map Handle.queue then queue.release else queue) size := by
    split
    · exact keeps.release
    · exact keeps
  have before := sized id
  rw [changed id, capacity?_snoc, born?_eq]
  cases found : world.queues[id]? with
  | some queue =>
      cases opened : capacity? id moves with
      | none => simp [found, opened] at before
      | some capacity =>
          rw [found, opened] at before
          exact released (world.touched_keeps roster id before move)
  | none =>
      cases opened : capacity? id moves with
      | some capacity => simp [found, opened] at before
      | none =>
          cases capacity? id [move] with
          | none => trivial
          | some capacity => exact released (.ofCapacity capacity)

theorem run (sized : world.Sized moves) (sound : world.Sound roster) (later : List WorldMove) :
    (world.run later).Sized (moves ++ later) := by
  induction later generalizing world roster moves with
  | nil => rwa [List.append_nil]
  | cons move later ih =>
      obtain ⟨roster', kept, -⟩ := sound.step move
      rw [List.append_cons]
      exact ih (sized.step sound move) kept

theorem keeps (sized : world.Sized moves) {id : QueueId} {queue : Outbound}
    (found : world.queues[id]? = some queue) :
    ∃ capacity, capacity? id moves = some capacity ∧ queue.Keeps (max capacity 1) := by
  have sized := sized id
  rw [found] at sized
  cases opened : capacity? id moves with
  | none => simp [opened] at sized
  | some capacity =>
      rw [opened] at sized
      exact ⟨capacity, rfl, sized⟩

end Sized
end World
end ChatRelay
