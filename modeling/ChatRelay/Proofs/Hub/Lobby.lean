import ChatRelay.Proofs.Hub.Holding
import ChatRelay.Proofs.Run
import Mathlib.Data.List.Flatten
import Mathlib.Data.List.Perm.Basic

/-! # Calls that wait

A request to a hub is a call. While the channel is full the call waits, and with it the handle that
it carries; it can also be given up. A lobby is a world with the calls that are being made in it, and
here a handle that was passed to a join is followed from the call to its end.
-/

namespace ChatRelay

/-- What is found in a closed queue. -/
theorem Outbound.receive_closed {queue : Outbound} (closed : queue.held = false) :
    queue.receive.1 = match queue.backlog with
      | data :: _ => .payload data
      | [] => .ended := by
  unfold receive
  split <;> simp [*]

/-- A world with the calls that are being made to its hub. -/
structure Lobby where
  world : World
  /-- Requests that were neither accepted nor refused yet. -/
  calls : List Command := []

inductive LobbyMove where
  /-- Make a call. Nobody else can use the handle that it carries from now on. -/
  | call (command : Command)
  /-- A call tries the channel. -/
  | proceed (place : Nat)
  /-- A call is given up. -/
  | cancel (place : Nat)
  /-- Somebody else takes a step. -/
  | other (move : WorldMove)

namespace Lobby

def start (capacity : Nat) : Lobby := { world := .start capacity }

/-- The handles in the calls. -/
def carried (lobby : Lobby) : List Handle := lobby.calls.flatMap EventLoop.carried

/-- Whether a call can be made: by someone who has the hub, and the handle that the call carries. -/
def takes (lobby : Lobby) (command : Command) : Bool :=
  lobby.world.loop.canUpgrade &&
    (EventLoop.carried command).all fun handle =>
      handle ∈ lobby.world.loose ∧ handle ∉ lobby.carried

/-- Whether a step beside the calls is possible. Requests are calls, and a call keeps the hub. -/
def allows (lobby : Lobby) : WorldMove → Bool
  | .push handle _ | .forget handle => handle ∉ lobby.carried
  | .submit _ => false
  | .drop => lobby.calls.isEmpty || 1 < lobby.world.loop.handles
  | _ => true

/-- The step of the world that a move comes to. -/
def turn? (lobby : Lobby) : LobbyMove → Option WorldMove
  | .call _ => none
  | .proceed place => lobby.calls[place]?.map .submit
  | .cancel place =>
      (lobby.calls[place]?.bind fun command => (EventLoop.carried command).head?).map .forget
  | .other move => if lobby.allows move then some move else none

/-- The calls that are left after a move. -/
def callsAfter (lobby : Lobby) : LobbyMove → List Command
  | .call command => if lobby.takes command then lobby.calls ++ [command] else lobby.calls
  | .proceed place =>
      match lobby.calls[place]? with
      | some command =>
          if (lobby.world.loop.submit command).1 = .waiting then lobby.calls
          else lobby.calls.eraseIdx place
      | none => lobby.calls
  | .cancel place => lobby.calls.eraseIdx place
  | .other _ => lobby.calls

/-- What a consumer finds in a move. -/
def found (lobby : Lobby) : LobbyMove → List (QueueId × Received)
  | .other (.receive queue) => [(queue, (lobby.world.queues.receive queue).1)]
  | _ => []

def step (lobby : Lobby) (move : LobbyMove) : List (QueueId × Received) × Lobby :=
  (lobby.found move,
    { world := match lobby.turn? move with
        | some turn => lobby.world.step turn
        | none => lobby.world
      calls := lobby.callsAfter move })

/-- A move lets go of a handle, whose queue closes. -/
def LetsGo (lobby : Lobby) (move : LobbyMove) (handle : Handle) : Prop :=
  ∃ turn, lobby.turn? move = some turn ∧ lobby.world.LetsGo turn handle

/-- What holds between any two moves. -/
structure Sound (lobby : Lobby) (roster : Roster) : Prop where
  world : lobby.world.Sound roster
  live : lobby.world.Live
  /-- The handles in the calls are loose, and each is in one call. -/
  loose : lobby.carried ⊆ lobby.world.loose
  once : lobby.carried.Nodup
  hub : lobby.calls ≠ [] → lobby.world.loop.canUpgrade = true

namespace Sound

variable {lobby : Lobby} {roster : Roster}

theorem start (capacity : Nat) : (Lobby.start capacity).Sound ∅ where
  world := .start capacity
  live := .start capacity
  loose := by simp [Lobby.start, carried]
  once := by simp [Lobby.start, carried]
  hub := by simp [Lobby.start]

/-- A step of the world after which some calls are left, each with its handle. -/
theorem settle (sound : lobby.Sound roster) (turn : WorldMove) {calls : List Command}
    (fewer : calls.Sublist lobby.calls)
    (loose : calls.flatMap EventLoop.carried ⊆ (lobby.world.step turn).loose)
    (others : calls ≠ [] → turn = .drop → 1 < lobby.world.loop.handles) :
    ∃ roster', Sound { world := lobby.world.step turn, calls } roster' := by
  obtain ⟨roster', world, -⟩ := sound.world.step turn
  refine ⟨roster', world, sound.live.step sound.world turn, loose, ?_, fun some => ?_⟩
  · exact sound.once.sublist (fewer.flatMap _)
  · exact World.canUpgrade_step (sound.hub fun none => some (by simpa [none] using fewer)) (others some)

/-- A call and the calls beside it. -/
theorem carried_perm {place : Nat} {command : Command} (found : lobby.calls[place]? = some command) :
    lobby.carried.Perm
      (EventLoop.carried command ++ (lobby.calls.eraseIdx place).flatMap EventLoop.carried) := by
  obtain ⟨within, rfl⟩ := List.getElem?_eq_some_iff.mp found
  exact ((List.getElem_cons_eraseIdx_perm within).flatMap_right _).symm

/-- The handles in the other calls are not those of a call. -/
theorem apart (sound : lobby.Sound roster) {place : Nat} {command : Command}
    (found : lobby.calls[place]? = some command) :
    ∀ handle ∈ (lobby.calls.eraseIdx place).flatMap EventLoop.carried,
      handle ∉ EventLoop.carried command ∧ handle ∈ lobby.world.loose := by
  intro handle other
  have perm := carried_perm found
  have apart := (List.nodup_append.mp (perm.nodup_iff.mp sound.once)).2.2
  refine ⟨fun own => apart handle own handle other rfl, sound.loose (perm.mem_iff.mpr ?_)⟩
  exact List.mem_append_right _ other

theorem step (sound : lobby.Sound roster) (move : LobbyMove) :
    ∃ roster', (lobby.step move).2.Sound roster' := by
  cases move with
  | call command =>
      simp only [Lobby.step, turn?, callsAfter]
      split
      · next takes =>
          simp only [Lobby.takes, Bool.and_eq_true, List.all_eq_true, decide_eq_true_eq] at takes
          refine ⟨roster, sound.world, sound.live, ?_, ?_, fun _ => takes.1⟩
          · simp only [Lobby.carried, List.flatMap_append, List.flatMap_singleton,
              List.append_subset]
            exact ⟨sound.loose, fun handle own => (takes.2 handle own).1⟩
          · simp only [Lobby.carried, List.flatMap_append, List.flatMap_singleton]
            refine sound.once.append ?_ fun handle old own => (takes.2 handle own).2 old
            rcases EventLoop.carried_cases command with none | ⟨handle, one⟩
            · simp [none]
            · simp [one]
      · exact ⟨roster, sound⟩
  | proceed place =>
      simp only [Lobby.step, turn?, callsAfter]
      cases found : lobby.calls[place]? with
      | none => exact ⟨roster, sound⟩
      | some command =>
          simp only [Option.map_some]
          split
          · next waiting =>
              rw [World.step_submit_waiting waiting]
              exact ⟨roster, sound⟩
          · refine sound.settle _ (List.eraseIdx_sublist _ _) (fun handle other => ?_) (by simp)
            obtain ⟨foreign, loose⟩ := sound.apart found handle other
            refine World.mem_loose_step loose (by simp) fun own same => ?_
            cases same
            exact foreign
  | cancel place =>
      simp only [Lobby.step, turn?, callsAfter]
      cases found : lobby.calls[place]? with
      | none =>
          rw [List.eraseIdx_of_length_le (List.getElem?_eq_none_iff.mp found)]
          exact ⟨roster, sound⟩
      | some command =>
          rcases EventLoop.carried_cases command with none | ⟨given, one⟩
          · simp only [Option.bind_some, none, List.head?_nil, Option.map_none]
            refine ⟨roster, sound.world, sound.live, fun handle other => ?_, ?_, fun some => ?_⟩
            · exact (sound.apart found handle other).2
            · exact sound.once.sublist ((List.eraseIdx_sublist _ _).flatMap _)
            · exact sound.hub fun empty => some (by simp [empty])
          · simp only [Option.bind_some, one, List.head?_cons, Option.map_some]
            refine sound.settle _ (List.eraseIdx_sublist _ _) (fun handle other => ?_) (by simp)
            obtain ⟨foreign, loose⟩ := sound.apart found handle other
            refine World.mem_loose_step loose (fun same => ?_) (by simp)
            cases same
            simp [one] at foreign
  | other move =>
      simp only [Lobby.step, turn?, callsAfter]
      split
      · next turn possible =>
          obtain ⟨allowed, same⟩ := Option.ite_none_right_eq_some.mp possible
          cases same
          refine sound.settle _ (List.Sublist.refl _) (fun handle own => ?_) ?_
          · refine World.mem_loose_step (sound.loose own) ?_ ?_
            · rintro rfl
              simp [allows] at allowed
              exact allowed own
            · rintro command rfl
              simp [allows] at allowed
          · rintro some rfl
            simpa [allows, some] using allowed
      · exact ⟨roster, sound⟩

end Sound

/-- A handle that was passed to a join is in a call, in the channel or in the registry, if it is
    anywhere, and no other handle is of its queue. -/
structure Passed (lobby : Lobby) (handle : Handle) : Prop where
  opened : handle.queue ∈ lobby.world.queues
  only : ∀ other ∈ lobby.world.kept, other.queue = handle.queue → other = handle
  given : handle ∈ lobby.world.loose → handle ∈ lobby.carried

namespace Passed

variable {lobby : Lobby} {roster : Roster} {handle : Handle}

theorem call (sound : lobby.Sound roster) {room : String}
    (takes : lobby.takes (.join room handle) = true) :
    (lobby.step (.call (.join room handle))).2.Passed handle := by
  have calls : (lobby.step (.call (.join room handle))).2.carried = lobby.carried ++ [handle] := by
    simp [step, callsAfter, takes, carried, EventLoop.carried]
  simp only [Lobby.takes, EventLoop.carried, Bool.and_eq_true, List.all_cons, List.all_nil,
    Bool.and_true, decide_eq_true_eq] at takes
  have loose : handle ∈ lobby.world.loose := takes.2.1
  refine ⟨sound.world.opened_outside handle (List.mem_append_left _ loose), ?_, fun _ => ?_⟩
  · intro other kept same
    exact sound.world.eq_of_kept kept (List.mem_append_left _ loose) same
  · rw [calls]
    exact List.mem_append_right _ (List.mem_singleton_self handle)

/-- A handle that is no longer in a call is not loose either. -/
theorem given_step (passed : lobby.Passed handle) (sound : lobby.Sound roster) (move : LobbyMove)
    (old : handle ∈ lobby.world.loose) (loose : handle ∈ (lobby.step move).2.world.loose) :
    handle ∈ (lobby.step move).2.carried := by
  have waits := passed.given old
  have nodup := sound.world.nodup_loose
  cases move with
  | call command =>
      simp only [Lobby.step, callsAfter, carried]
      split
      · rw [List.flatMap_append]
        exact List.mem_append_left _ waits
      · exact waits
  | proceed place =>
      simp only [Lobby.step, turn?, callsAfter, carried] at loose ⊢
      cases found : lobby.calls[place]? with
      | none => exact waits
      | some command =>
          simp only [found, Option.map_some] at loose ⊢
          split
          · exact waits
          · next sent =>
              have perm := Sound.carried_perm found
              have possible : lobby.world.loop.canUpgrade = true ∧
                  EventLoop.carried command ⊆ lobby.world.loose := by
                refine ⟨sound.hub fun none => by simp [none] at found, fun own carries => ?_⟩
                exact sound.loose (perm.mem_iff.mpr (List.mem_append_left _ carries))
              rw [World.loose_step_submit possible sent, nodup.mem_sdiff_iff] at loose
              exact (List.mem_append.mp (perm.mem_iff.mp waits)).resolve_left loose.2
  | cancel place =>
      simp only [Lobby.step, turn?, callsAfter, carried] at loose ⊢
      cases found : lobby.calls[place]? with
      | none => rwa [List.eraseIdx_of_length_le (List.getElem?_eq_none_iff.mp found)]
      | some command =>
          have perm := Sound.carried_perm found
          have split := List.mem_append.mp (perm.mem_iff.mp waits)
          rcases EventLoop.carried_cases command with none | ⟨given, one⟩
          · simpa [none] using split
          · refine split.resolve_left fun own => ?_
            rw [one, List.mem_singleton] at own
            subst own
            simp only [found, Option.bind_some, one, List.head?_cons, Option.map_some, World.step,
              if_pos old] at loose
            exact (nodup.mem_erase_iff.mp loose).1 rfl
  | other move => exact waits

theorem step (passed : lobby.Passed handle) (sound : lobby.Sound roster) (move : LobbyMove) :
    (lobby.step move).2.Passed handle := by
  have given := passed.given_step sound move
  cases turns : lobby.turn? move with
  | none =>
      have same : (lobby.step move).2.world = lobby.world := by simp only [Lobby.step, turns]
      rw [same] at given
      exact ⟨same ▸ passed.opened, same ▸ passed.only, fun loose => given (same ▸ loose) (same ▸ loose)⟩
  | some turn =>
      have world : (lobby.step move).2.world = lobby.world.step turn := by
        simp only [Lobby.step, turns]
      obtain ⟨roster', -, stems⟩ := sound.world.step turn
      rw [world] at given
      refine ⟨?_, ?_, fun loose => ?_⟩
      · rw [world]
        exact stems.queues _ passed.opened
      · rw [world]
        intro other kept same
        refine passed.only other ?_ same
        exact ((sound.world.kept_step turn (same ▸ passed.opened)).mp kept).1
      · rw [world] at loose
        refine given ?_ loose
        exact (stems.loose handle loose).resolve_right fun new => new passed.opened

end Passed

/-- What the consumer of a queue finds, of all that is found. -/
def finds (id : QueueId) (shown : List (QueueId × Received)) : List Received :=
  (shown.filter fun (queue, _) => queue = id).map Prod.snd

theorem finds_append (id : QueueId) (shown later : List (QueueId × Received)) :
    finds id (shown ++ later) = finds id shown ++ finds id later := by
  simp [finds]

theorem other_of_turn? {lobby : Lobby} {move : LobbyMove} {turn : WorldMove}
    (turns : lobby.turn? move = some turn) :
    (∃ command, turn = .submit command) ∨ (∃ handle, turn = .forget handle) ∨
      move = .other turn := by
  cases move with
  | call command => exact nomatch turns
  | proceed place =>
      obtain ⟨command, -, rfl⟩ := Option.map_eq_some_iff.mp turns
      exact .inl ⟨command, rfl⟩
  | cancel place =>
      obtain ⟨handle, -, rfl⟩ := Option.map_eq_some_iff.mp turns
      exact .inr (.inl ⟨handle, rfl⟩)
  | other move =>
      obtain ⟨-, same⟩ := Option.ite_none_right_eq_some.mp turns
      cases same
      exact .inr (.inr rfl)

/-- Whatever is found is found in a step of the world. -/
theorem found_eq (lobby : Lobby) (move : LobbyMove) : lobby.found move =
    match lobby.turn? move with
    | some (.receive queue) => [(queue, (lobby.world.queues.receive queue).1)]
    | _ => [] := by
  cases turns : lobby.turn? move with
  | none =>
      cases move with
      | other move =>
          cases move with
          | receive queue => simp [turn?, allows] at turns
          | _ => rfl
      | _ => rfl
  | some turn =>
      rcases other_of_turn? turns with ⟨command, rfl⟩ | ⟨handle, rfl⟩ | rfl
      · cases move with
        | other move =>
            obtain ⟨-, same⟩ := Option.ite_none_right_eq_some.mp turns
            cases same
            rfl
        | _ => rfl
      · cases move with
        | other move =>
            obtain ⟨-, same⟩ := Option.ite_none_right_eq_some.mp turns
            cases same
            rfl
        | _ => rfl
      · cases turn <;> rfl

namespace Sound

variable {lobby : Lobby} {roster : Roster}

theorem run (sound : lobby.Sound roster) (moves : List LobbyMove) :
    ∃ roster', (play Lobby.step lobby moves).2.Sound roster' := by
  refine play_induction (motive := fun _ (lobby : Lobby) => ∃ roster, lobby.Sound roster) ?_
    ⟨roster, sound⟩ moves
  rintro - lobby move ⟨roster, sound⟩
  exact sound.step move

theorem passed_run (sound : lobby.Sound roster) {handle : Handle} (passed : lobby.Passed handle)
    (moves : List LobbyMove) : (play Lobby.step lobby moves).2.Passed handle := by
  have both := play_induction
    (motive := fun _ (lobby : Lobby) => (∃ roster, lobby.Sound roster) ∧ lobby.Passed handle)
    (fun _ _ move ⟨⟨_, sound⟩, passed⟩ => ⟨sound.step move, passed.step sound move⟩)
    ⟨⟨roster, sound⟩, passed⟩ moves
  exact both.2

/-- Where a handle is that was passed to a join, if it is anywhere. -/
theorem kept_iff (sound : lobby.Sound roster) {handle : Handle} (passed : lobby.Passed handle) :
    handle ∈ lobby.world.kept ↔
      (∃ room, .join room handle ∈ lobby.calls) ∨
      lobby.world.loop.running = true ∧ (∃ room, .join room handle ∈ lobby.world.loop.pending) ∨
      ∃! room, lobby.world.loop.hub.registry.handleIn? room handle.client = some handle := by
  have carrying (commands : List Command) : handle ∈ commands.flatMap EventLoop.carried ↔
      ∃ room, .join room handle ∈ commands := by
    simp only [List.mem_flatMap, EventLoop.mem_carried]
    constructor
    · rintro ⟨command, listed, room, rfl⟩
      exact ⟨room, listed⟩
    · rintro ⟨room, listed⟩
      exact ⟨_, listed, room, rfl⟩
  have called : handle ∈ lobby.world.loose ↔ ∃ room, .join room handle ∈ lobby.calls :=
    ⟨fun loose => (carrying _).mp (passed.given loose), fun call => sound.loose ((carrying _).mpr call)⟩
  have waiting : handle ∈ lobby.world.loop.pending.flatMap EventLoop.carried ↔
      lobby.world.loop.running = true ∧ ∃ room, .join room handle ∈ lobby.world.loop.pending := by
    rw [carrying, iff_and_self]
    rintro ⟨room, listed⟩
    by_contra ended
    rw [sound.live.idle (by simpa using ended)] at listed
    exact nomatch listed
  have stored : handle ∈ lobby.world.loop.hub.registry.handles ↔
      ∃! room, lobby.world.loop.hub.registry.handleIn? room handle.client = some handle := by
    rw [sound.world.mirrors.mem_handles]
    constructor
    · rintro ⟨client, kept⟩
      obtain ⟨room, stored⟩ := Roster.handleOf?_eq_some_iff.mp kept
      have own := sound.world.mirrors.own client room handle stored
      subst own
      refine ⟨room, (sound.world.mirrors.stored room _ handle).mpr stored, fun other also => ?_⟩
      have stored' := (sound.world.mirrors.stored other _ handle).mp also
      rw [stored] at stored'
      cases stored'
      rfl
    · rintro ⟨room, stored, -⟩
      have stored' := (sound.world.mirrors.stored room _ handle).mp stored
      exact ⟨handle.client, Roster.handleOf?_eq_some_iff.mpr ⟨room, stored'⟩⟩
  simp only [World.kept, EventLoop.held, List.mem_append, called, waiting, stored]
  exact or_congr_right or_comm

/-- Each move closes the queues of the handles that it lets go of, and no others. -/
theorem held_step (sound : lobby.Sound roster) (move : LobbyMove) {id : QueueId} {queue : Outbound}
    (found : lobby.world.queues[id]? = some queue) :
    ∃ after, (lobby.step move).2.world.queues[id]? = some after ∧
      (after.held = true ↔
        queue.held = true ∧ ¬∃ handle, lobby.LetsGo move handle ∧ handle.queue = id) := by
  simp only [Lobby.step, LetsGo]
  cases lobby.turn? move with
  | none => exact ⟨queue, found, by simp⟩
  | some turn =>
      obtain ⟨after, next, -, held⟩ := sound.world.held_step turn found
      exact ⟨after, next, by simpa using held⟩

/-- A queue that is closed stays closed, and only its consumer takes anything out of it. -/
theorem closed_step (sound : lobby.Sound roster) {id : QueueId} {queue : Outbound}
    (found : lobby.world.queues[id]? = some queue) (closed : queue.held = false) {move : LobbyMove}
    (keeps : move ≠ .other (.discard id)) :
    ∃ after, (lobby.step move).2.world.queues[id]? = some after ∧ after.held = false ∧
      (finds id (lobby.step move).1 = [] ∧ after.backlog = queue.backlog ∨
        finds id (lobby.step move).1 = [queue.receive.1] ∧ after.backlog = queue.backlog.tail) := by
  simp only [Lobby.step, lobby.found_eq]
  cases turns : lobby.turn? move with
  | none => exact ⟨queue, found, closed, .inl ⟨rfl, rfl⟩⟩
  | some turn =>
      have keeps' : turn ≠ .discard id := by
        rintro rfl
        rcases other_of_turn? turns with ⟨_, other⟩ | ⟨_, other⟩ | same
        · exact nomatch other
        · exact nomatch other
        · exact keeps same
      obtain ⟨after, next, alike, held⟩ := sound.world.held_step turn found
      refine ⟨after, next, by simpa [closed] using held, ?_⟩
      rw [alike.backlog, sound.live.backlog_touched sound.world found closed keeps']
      cases turn with
      | receive other =>
          simp only [finds]
          by_cases same : other = id
          · subst same
            exact .inr ⟨by simp [Queues.receive_fst found], by simp⟩
          · exact .inl ⟨by simp [same], by simp [same]⟩
      | _ => exact .inl ⟨rfl, rfl⟩

/-- What is found in a closed queue is its backlog, and then its end. -/
theorem finds_closed (sound : lobby.Sound roster) {id : QueueId} {queue : Outbound}
    (found : lobby.world.queues[id]? = some queue) (closed : queue.held = false)
    (later : List LobbyMove) (keeps : ∀ move ∈ later, move ≠ .other (.discard id)) :
    let finds := finds id (play Lobby.step lobby later).1
    finds = (queue.backlog.take finds.length).map .payload ++
      List.replicate (finds.length - queue.backlog.length) .ended := by
  induction later generalizing lobby roster queue with
  | nil => simp [play, Lobby.finds]
  | cons move later ih =>
      obtain ⟨after, next, closed', step⟩ := sound.closed_step found closed (keeps move List.mem_cons_self)
      obtain ⟨roster', sound'⟩ := sound.step move
      have rest := ih sound' next closed' fun other member => keeps other (List.mem_cons_of_mem _ member)
      simp only [play, finds_append]
      rcases step with ⟨nothing, same⟩ | ⟨one, tail⟩
      · rw [nothing, List.nil_append, ← same]
        exact rest
      · rw [one, List.singleton_append, List.length_cons]
        rw [tail] at rest
        generalize Lobby.finds id (play Lobby.step (lobby.step move).2 later).1 = finds at rest
        have head := queue.receive_closed closed
        cases backlog : queue.backlog with
        | nil =>
            rw [backlog] at head rest
            simpa [head, List.replicate_succ] using rest
        | cons data backlog' =>
            rw [backlog] at head rest
            simpa [head] using rest

/-- Switches leave the queues alone. -/
theorem queues_switches (sound : lobby.Sound roster) (running : lobby.world.loop.running = true)
    (fanouts : List (Option Bool)) (switches : List (ClientId × String)) (rest : List Command)
    (each : fanouts.length = switches.length)
    (next : lobby.world.loop.pending =
      switches.map (fun switch => .switch switch.1 switch.2) ++ rest) :
    (play Lobby.step lobby (fanouts.map fun fanout => .other (.advance fanout))).2.world.queues =
      lobby.world.queues := by
  induction switches generalizing lobby roster fanouts with
  | nil =>
      rw [List.length_eq_zero_iff.mp each]
      rfl
  | cons switch switches ih =>
      obtain ⟨client, room⟩ := switch
      obtain ⟨fanout, fanouts, rfl⟩ := List.exists_cons_of_length_eq_add_one each
      let later := (lobby.step (.other (.advance fanout))).2
      obtain ⟨roster', sound'⟩ := sound.step (.other (.advance fanout))
      have world : later.world = { lobby.world with
          loop := { lobby.world.loop with
            hub := (lobby.world.loop.hub.process fanout (.switch client room)
              lobby.world.queues).hub
            pending := switches.map (fun switch => .switch switch.1 switch.2) ++ rest } } := by
        have steps := EventLoop.advance_cons running next fanout lobby.world.queues
        simp only [later, Lobby.step, turn?, allows, if_true, World.step, steps,
          sound.world.mirrors.queues_switch]
        rfl
      have still : later.world.loop.running = true := by
        rw [world]
        exact running
      have rest := ih sound' still fanouts (by simpa using each) (congrArg (·.loop.pending) world)
      simp only [List.map_cons, play]
      rw [rest, world]

end Sound

/-- A queue whose handle was passed to a join is open exactly as long as the handle is in a call that
    waits, in the channel of a running loop, or in the registry under its client and in one room.
    Nothing is held twice; every step closes the queues of the handles that it lets go of; what is
    found in a closed queue is its backlog and then its end; and switches leave the queues alone. -/
theorem queue_open_iff_handle_held (capacity : Nat) (before after : List LobbyMove) (room : String)
    (handle : Handle)
    (taken : (play step (start capacity) before).2.takes (.join room handle) = true) :
    let lobby := (play step (start capacity) (before ++ .call (.join room handle) :: after)).2
    ∃ queue, lobby.world.queues[handle.queue]? = some queue ∧
      (queue.held = true ↔
        (∃ place, .join place handle ∈ lobby.calls) ∨
        lobby.world.loop.running = true ∧ (∃ place, .join place handle ∈ lobby.world.loop.pending) ∨
        ∃! place, lobby.world.loop.hub.registry.handleIn? place handle.client = some handle) ∧
      (lobby.world.kept.map Handle.queue).Nodup ∧
      (∀ move id old, lobby.world.queues[id]? = some old →
        ∃ new, (lobby.step move).2.world.queues[id]? = some new ∧
          (new.held = true ↔
            old.held = true ∧ ¬∃ gone, lobby.LetsGo move gone ∧ gone.queue = id)) ∧
      (queue.held = false → ∀ later, (∀ move ∈ later, move ≠ .other (.discard handle.queue)) →
        let finds := finds handle.queue (play step lobby later).1
        finds = (queue.backlog.take finds.length).map .payload ++
          List.replicate (finds.length - queue.backlog.length) .ended) ∧
      ∀ (fanouts : List (Option Bool)) (switches : List (ClientId × String)) (rest : List Command),
        fanouts.length = switches.length → lobby.world.loop.running = true →
        lobby.world.loop.pending =
          switches.map (fun switch => .switch switch.1 switch.2) ++ rest →
        (play step lobby (fanouts.map fun fanout => .other (.advance fanout))).2.world.queues =
          lobby.world.queues := by
  intro lobby
  obtain ⟨roster₀, sound₀⟩ := (Sound.start capacity).run before
  obtain ⟨roster₁, sound₁⟩ := sound₀.step (.call (.join room handle))
  have reached : lobby = (play step ((play step (start capacity) before).2.step
      (.call (.join room handle))).2 after).2 := by
    simp only [lobby, play_append, play]
  obtain ⟨roster, sound⟩ := sound₁.run after
  have passed := sound₁.passed_run (.call sound₀ taken) after
  rw [← reached] at sound passed
  clear_value lobby
  obtain ⟨queue, found⟩ := Option.isSome_iff_exists.mp
    (Std.ExtTreeMap.mem_iff_isSome_getElem?.mp passed.opened)
  refine ⟨queue, found, ?_, sound.world.nodup_kept, ?_, ?_, ?_⟩
  · rw [sound.live.open_iff handle.queue queue found, ← sound.kept_iff passed]
    constructor
    · rintro ⟨other, kept, same⟩
      exact passed.only other kept same ▸ kept
    · exact fun kept => ⟨handle, kept, rfl⟩
  · exact fun move id old present => sound.held_step move present
  · exact fun closed later keeps => sound.finds_closed found closed later keeps
  · exact fun fanouts switches rest each running next =>
      sound.queues_switches running fanouts switches rest each next

/-- A client comes back under its identity with another handle, and the first queue ends once its
    backlog is read. -/
theorem queue_open_iff_handle_held_replaced :
    let before : List LobbyMove :=
      [.other (.connect ⟨1, 1⟩ 4), .other (.push ⟨1, 1⟩ [5]), .other (.connect ⟨1, 2⟩ 4)]
    let after : List LobbyMove :=
      [.proceed 0, .call (.join "b" ⟨1, 2⟩), .other (.advance none), .proceed 0,
        .other (.advance none)]
    let lobby := (play step (start 4) (before ++ .call (.join "a" ⟨1, 1⟩) :: after)).2
    (play step (start 4) before).2.takes (.join "a" ⟨1, 1⟩) = true ∧
    ∃ queue, lobby.world.queues[1]? = some queue ∧ queue.held = false ∧
      (¬∃! place, lobby.world.loop.hub.registry.handleIn? place 1 = some ⟨1, 1⟩) ∧
      finds 1 (play step lobby [.other (.receive 1), .other (.receive 2), .other (.receive 1)]).1 =
        [.payload [5], .ended] := by
  intro before after lobby
  have taken : (play step (start 4) before).2.takes (.join "a" ⟨1, 1⟩) = true := by decide +kernel
  have closed : lobby.world.queues[1]?.map Outbound.held = some false := by decide +kernel
  have read : finds 1 (play step lobby
      [.other (.receive 1), .other (.receive 2), .other (.receive 1)]).1 = [.payload [5], .ended] := by
    decide +kernel
  obtain ⟨queue, found, places, -⟩ := queue_open_iff_handle_held 4 before after "a" ⟨1, 1⟩ taken
  rw [found, Option.map_some, Option.some.injEq] at closed
  refine ⟨taken, queue, found, closed, fun stored => ?_, read⟩
  exact nomatch closed.symm.trans (places.mpr (.inr (.inr stored)))

end Lobby
end ChatRelay
