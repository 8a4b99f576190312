import ChatRelay.Proofs.Hub.Broadcasts
import ChatRelay.Proofs.Hub.Commands
import ChatRelay.Proofs.Run

/-! # Clients do not disturb each other

A hub with the consumers of its clients' queues, and what one client has of all that: the room that
it is in, its handle there, and its own queues. This part makes its own steps. They depend on the
commands about that client, on what its consumers do and on the broadcasts, and on nothing that
happens to anybody else.
-/

namespace ChatRelay

/-- What a command does to a queue of a client that is at `seat`, but for letting go of it. -/
def Command.reaching (seat : Option (String × Handle)) (id : QueueId) (queue : Outbound) :
    Command → Outbound
  | .broadcast envelope =>
      match seat with
      | some (room, handle) =>
          if room = envelope.room ∧ handle.queue = id then (queue.offer envelope.payload).2
          else queue
      | none => queue
  | _ => queue

/-- A hub with its clients' queues. -/
structure Hall where
  hub : Hub := {}
  queues : Queues

inductive HallMove where
  | process (fanout : Option Bool) (command : Command)
  | receive (queue : QueueId)
  | close (queue : QueueId)
  | discard (queue : QueueId)

/-- What a client can tell of a step. -/
inductive HallNotice where
  /-- A consumer asked for the next payload. -/
  | received (queue : QueueId) (found : Received)
  /-- A broadcast found the client's queue full or closed, and the client was removed. -/
  | removed (client : ClientId) (envelope : Envelope)
  deriving DecidableEq

/-- The clients that a broadcast cost their place. -/
def Event.removals? : Event → Option (Envelope × List ClientId)
  | .delivered envelope report => some (envelope, report.removed)
  | _ => none

/-- What the clients can tell of what a hub reports. -/
def HallNotice.ofEvents (events : List Event) : List HallNotice :=
  (events.filterMap Event.removals?).flatMap fun (envelope, gone) =>
    gone.map fun client => .removed client envelope

def Hall.step (hall : Hall) : HallMove → List HallNotice × Hall
  | .process fanout command =>
      let step := hall.hub.process fanout command hall.queues
      (HallNotice.ofEvents step.events, { hub := step.hub, queues := step.queues })
  | .receive queue =>
      let (found, queues) := hall.queues.receive queue
      ([.received queue found], { hall with queues })
  | .close queue => ([], { hall with queues := hall.queues.update queue Outbound.close })
  | .discard queue => ([], { hall with queues := hall.queues.update queue Outbound.discard })

/-- What one client has of a hall. -/
@[ext]
structure Share where
  seat : Option (String × Handle)
  queue : QueueId → Option Outbound

namespace Share

/-- What a queue of the client answers to a payload. -/
def answer (share : Share) (id : QueueId) (data : Bytes) : Offer :=
  match share.queue id with
  | some queue => (queue.offer data).1
  | none => .closed

/-- What a consumer of the client finds. -/
def found (share : Share) (id : QueueId) : Received :=
  match share.queue id with
  | some queue => queue.receive.1
  | none => .ended

/-- Change one queue. -/
def update (share : Share) (id : QueueId) (change : Outbound → Outbound) : Share :=
  { share with queue := fun other =>
      if id = other then (share.queue other).map change else share.queue other }

/-- What the client can tell of a command, if it lets go of a handle of it. -/
def told (client : ClientId) (gone : Option Handle) : Command → List HallNotice
  | .broadcast envelope => if gone.isSome then [.removed client envelope] else []
  | _ => []

/-- The client as an automaton of its own. -/
def step (owner : QueueId → ClientId) (client : ClientId) (share : Share) :
    HallMove → List HallNotice × Share
  | .process _ command =>
      let gone := command.dismissed share.answer client share.seat
      (told client gone command,
        { seat := command.seated share.answer client share.seat
          queue := fun id => (share.queue id).map fun queue =>
            let queue := command.reaching share.seat id queue
            if id ∈ gone.map Handle.queue then queue.release else queue })
  | .receive id =>
      if owner id = client then
        ([.received id (share.found id)], share.update id fun queue => queue.receive.2)
      else ([], share)
  | .close id => if owner id = client then ([], share.update id Outbound.close) else ([], share)
  | .discard id => if owner id = client then ([], share.update id Outbound.discard) else ([], share)

end Share

variable (owner : QueueId → ClientId) (client : ClientId)

/-- What a client has of a hall. -/
def Hall.share (hall : Hall) : Share where
  seat := hall.hub.registry.seat? client
  queue id := if owner id = client then hall.queues[id]? else none

namespace HallMove

/-- Whether a move is one of a client: a command about it, a step of one of its consumers, or a
    broadcast. -/
def concerns : HallMove → Bool
  | .process _ command => command.subject?.all (· = client)
  | .receive queue | .close queue | .discard queue => owner queue = client

/-- Whether a move hands in no handle but of a queue that is the client's own. -/
def Fair : HallMove → Prop
  | .process _ command => ∀ handle ∈ EventLoop.carried command, owner handle.queue = handle.client
  | _ => True

end HallMove

/-- Whether a notice is for a client. -/
def HallNotice.isFor : HallNotice → Bool
  | .received queue _ => owner queue = client
  | .removed other _ => other = client

variable {owner client}

/-- What is not of a client leaves it as it is. -/
theorem Share.step_idle (share : Share) (move : HallMove) (other : move.concerns owner client = false) :
    share.step owner client move = ([], share) := by
  cases move with
  | process fanout command =>
      cases command with
      | broadcast envelope => simp [HallMove.concerns, Command.subject?] at other
      | snapshot ticket => simp [HallMove.concerns, Command.subject?] at other
      | _ =>
          simp only [HallMove.concerns, Command.subject?, Option.all_some, decide_eq_false_iff_not] at other
          simp [step, told, Command.seated, Command.dismissed, Command.reaching, other]
  | _ =>
      simp only [HallMove.concerns, decide_eq_false_iff_not] at other
      simp only [step, if_neg other]

namespace Hall

/-- A consumer of the client finds what the queue holds. -/
theorem found_share (hall : Hall) {id : QueueId} (mine : owner id = client) :
    (hall.queues.receive id).1 = (hall.share owner client).found id := by
  simp only [Queues.receive, Share.found, share, if_pos mine]
  cases hall.queues[id]? <;> rfl

theorem share_update (hall : Hall) (id : QueueId) (change : Outbound → Outbound) :
    share owner client { hall with queues := hall.queues.update id change } =
      if owner id = client then (hall.share owner client).update id change
      else hall.share owner client := by
  split
  · next mine =>
      refine Share.ext rfl (funext fun other => ?_)
      simp only [share, Share.update, Queues.getElem?_update]
      by_cases same : id = other
      · simp [← same, mine]
      · simp [same]
  · next foreign =>
      refine Share.ext rfl (funext fun other => ?_)
      simp only [share, Queues.getElem?_update]
      by_cases same : id = other
      · simp [← same, foreign]
      · simp [same]

/-- The registry is the image of a roster in which everyone has a queue of their own. -/
structure Owned (owner : QueueId → ClientId) (hall : Hall) (roster : Roster) : Prop where
  mirrors : hall.hub.registry.Mirrors roster
  own : ∀ client handle, roster.handleOf? client = some handle → owner handle.queue = client

namespace Owned

variable {hall : Hall} {roster : Roster}

theorem start (queues : Queues) : Owned owner { queues } ∅ where
  mirrors := .empty
  own := by simp [Roster.handleOf?]

theorem unshared (owned : hall.Owned owner roster) : roster.Unshared := by
  intro client other handle handle' here there same
  rw [← owned.own client handle here, ← owned.own other handle' there, same]

theorem step (owned : hall.Owned owner roster) {move : HallMove} (fair : move.Fair owner) :
    ∃ roster', (hall.step move).2.Owned owner roster' := by
  cases move with
  | process fanout command =>
      have mirrors := owned.mirrors.process owned.unshared fanout command hall.queues
      refine ⟨_, mirrors, fun client handle kept => ?_⟩
      rcases owned.mirrors.handleOf?_processing command hall.queues kept with old | carried
      · exact owned.own client handle old
      · obtain ⟨room, stored⟩ := Roster.handleOf?_eq_some_iff.mp kept
        rw [fair handle carried, mirrors.own client room handle stored]
  | _ => exact ⟨roster, owned.mirrors, owned.own⟩

/-- A queue that the roster knows belongs to the client that it knows it of. -/
theorem mem_membersOf_iff (owned : hall.Owned owner roster) {room : String} {id : QueueId}
    (mine : owner id = client) :
    id ∈ (roster.membersOf room).map (fun member => member.2.queue) ↔
      ∃ handle, roster[client]? = some (room, handle) ∧ handle.queue = id := by
  simp only [List.mem_map, Prod.exists, Roster.mem_membersOf]
  constructor
  · rintro ⟨other, handle, stored, rfl⟩
    have own := owned.own other handle (Roster.handleOf?_eq_some_iff.mpr ⟨room, stored⟩)
    exact ⟨handle, by rw [← mine, own, stored], rfl⟩
  · rintro ⟨handle, stored, same⟩
    exact ⟨client, handle, stored, same⟩

theorem offered_eq (owned : hall.Owned owner roster) {id : QueueId} (mine : owner id = client)
    (command : Command) (queue : Outbound) :
    command.offered roster id queue = command.reaching roster[client]? id queue := by
  cases command with
  | broadcast envelope =>
      have member : id ∈ (roster.membersOf envelope.room).map (fun member => member.2.queue) ↔
          ∃ handle, roster[client]? = some (envelope.room, handle) ∧ handle.queue = id :=
        owned.mem_membersOf_iff mine
      unfold Command.offered Command.reaching
      cases stored : roster[client]? with
      | none => simp [member, stored]
      | some seat => simp [member, stored, Prod.ext_iff]
  | _ => rfl

/-- A client's own queues answer to it as they do to the hub. -/
theorem answer_share (owned : hall.Owned owner roster) (room : String) (handle : Handle)
    (stored : roster[client]? = some (room, handle)) :
    hall.queues.answer handle.queue = (hall.share owner client).answer handle.queue := by
  have own := owned.own client handle (Roster.handleOf?_eq_some_iff.mpr ⟨room, stored⟩)
  funext data
  simp only [Queues.answer, Queues.offer, Share.answer, share, if_pos own]
  cases hall.queues[handle.queue]? <;> rfl

/-- Of all that a broadcast removes, a client is told of itself. -/
theorem filter_notices (owned : hall.Owned owner roster) (fanout : Option Bool) (command : Command) :
    (HallNotice.ofEvents (hall.hub.process fanout command hall.queues).events).filter
        (HallNotice.isFor owner client) =
      Share.told client (command.dismissed hall.queues.answer client roster[client]?) command := by
  rw [HallNotice.ofEvents, Hub.filterMap_process fun _ => rfl]
  cases command with
  | broadcast envelope =>
      obtain ⟨left, call, -⟩ := owned.mirrors.deliver envelope.room envelope.payload hall.queues
      have published : (Hub.publish fanout envelope {}).2.filterMap Event.removals? = [] := by
        rw [Hub.publish_snd]
        cases fanout <;> simp [Event.removals?]
      let removed := (Registry.offerEach envelope.payload (roster.membersOf envelope.room)
        hall.queues).1.removed
      have once : removed.Nodup :=
        Registry.nodup_removed_offerEach _ _ (roster.nodup_membersOf envelope.room)
      have mine : client ∈ removed ↔ ((Command.broadcast envelope).dismissed hall.queues.answer client
          roster[client]?).isSome := by
        rw [Registry.Mirrors.mem_removed owned.unshared]
        cases stored : roster[client]? with
        | none => simp [Command.dismissed]
        | some seat =>
            simp only [Command.dismissed, Option.isSome_map, Option.isSome_filter]
            simp only [Queues.answer, Option.some.injEq, Prod.ext_iff, ne_eq]
            grind
      have found : removed.filter (fun other => other = client) =
          if client ∈ removed then [client] else [] := by
        rw [List.filter_eq, List.Nodup.count once]
        split <;> rfl
      simp only [call, published, Event.removals?, Option.toList_some, List.append_nil,
        List.flatMap_singleton, List.filter_map, Share.told, ← mine]
      exact (congrArg (List.map _) found).trans (by split <;> rfl)
  | _ => rfl

/-- Of all the queues that a command closes, a client's own is the one of the handle that it is
    relieved of. -/
theorem mem_released_iff (owned : hall.Owned owner roster) {command : Command}
    {released : List Handle}
    (gone : Registry.Mirrors.Released roster command hall.queues released) {id : QueueId}
    (mine : owner id = client) : id ∈ released.map Handle.queue ↔
      id ∈ (command.dismissed hall.queues.answer client roster[client]?).map Handle.queue := by
  simp only [List.mem_map, Option.mem_def, Option.map_eq_some_iff]
  constructor
  · rintro ⟨handle, listed, rfl⟩
    obtain ⟨other, dismissed⟩ := (gone handle).mp listed
    have own := owned.own other handle (Command.seat_of_dismissed dismissed)
    rw [own] at mine
    subst mine
    exact ⟨handle, dismissed, rfl⟩
  · rintro ⟨handle, dismissed, same⟩
    exact ⟨handle, (gone handle).mpr ⟨client, dismissed⟩, same⟩

/-- What a client has of a hall makes its own steps. -/
theorem share_step (owned : hall.Owned owner roster) (client : ClientId) (move : HallMove) :
    ((hall.step move).1.filter (HallNotice.isFor owner client), (hall.step move).2.share owner client) =
      (hall.share owner client).step owner client move := by
  cases move with
  | process fanout command =>
      obtain ⟨released, gone, changed⟩ := owned.mirrors.process_queues owned.unshared fanout command
        hall.queues
      have asks (room : String) (handle : Handle) (stored : roster[client]? = some (room, handle)) :=
        owned.answer_share room handle stored
      have seat : (hall.share owner client).seat = roster[client]? := owned.mirrors.seat?_eq client
      have dismissed : command.dismissed hall.queues.answer client roster[client]? =
          command.dismissed (hall.share owner client).answer client roster[client]? :=
        command.dismissed_congr asks
      refine Prod.ext ?_ (Share.ext ?_ (funext fun id => ?_))
      · simp only [Share.step, seat, ← dismissed]
        exact owned.filter_notices fanout command
      · simp only [Share.step, seat, ← command.seated_congr asks]
        rw [← owned.mirrors.getElem?_processing]
        exact (owned.mirrors.process owned.unshared fanout command hall.queues).seat?_eq client
      · simp only [Share.step, seat, ← dismissed]
        by_cases mine : owner id = client
        · simp only [share, if_pos mine, Hall.step, changed, owned.offered_eq mine,
            owned.mem_released_iff gone mine]
        · simp only [share, if_neg mine, Option.map_none]
  | receive id =>
      simp only [Hall.step, Share.step, Queues.receive_snd, share_update]
      by_cases mine : owner id = client
      · simp [HallNotice.isFor, mine, found_share hall mine]
      · simp [HallNotice.isFor, mine]
  | close id =>
      simp only [Hall.step, Share.step, share_update]
      split <;> rfl
  | discard id =>
      simp only [Hall.step, Share.step, share_update]
      split <;> rfl

theorem run (owned : hall.Owned owner roster) {moves : List HallMove}
    (fair : ∀ move ∈ moves, move.Fair owner) :
    ∃ roster', (play Hall.step hall moves).2.Owned owner roster' := by
  induction moves generalizing hall roster with
  | nil => exact ⟨roster, owned⟩
  | cons move moves ih =>
      obtain ⟨between, kept⟩ := owned.step (fair move List.mem_cons_self)
      exact ih kept fun later member => fair later (List.mem_cons_of_mem _ member)

theorem share_run (owned : hall.Owned owner roster) (client : ClientId) {moves : List HallMove}
    (fair : ∀ move ∈ moves, move.Fair owner) :
    ((play Hall.step hall moves).1.filter (HallNotice.isFor owner client),
        (play Hall.step hall moves).2.share owner client) =
      play (Share.step owner client) (hall.share owner client) moves := by
  refine play_part (motive := fun hall => ∃ roster, hall.Owned owner roster)
    (Hall.share owner client) (HallNotice.isFor owner client) ?_ ?_ ⟨roster, owned⟩ moves fair
  · rintro hall move ⟨roster, owned⟩ fair
    exact owned.step fair
  · rintro hall move ⟨roster, owned⟩ -
    exact owned.share_step client move

theorem index_eq (owned : hall.Owned owner roster) (client : ClientId) :
    hall.hub.registry.roomOf? client = (hall.share owner client).seat.map Prod.fst := by
  have seat : (hall.share owner client).seat = roster[client]? := owned.mirrors.seat?_eq client
  rw [seat]
  exact owned.mirrors.index client

theorem stored_iff (owned : hall.Owned owner roster) (client : ClientId) (room : String)
    (handle : Handle) : hall.hub.registry.handleIn? room client = some handle ↔
      (hall.share owner client).seat = some (room, handle) := by
  have seat : (hall.share owner client).seat = roster[client]? := owned.mirrors.seat?_eq client
  rw [seat]
  exact owned.mirrors.stored room client handle

/-- Halls in which every client has the same are the same, but for what the hub counts. -/
theorem eq_of_share {other : Hall} {roster' : Roster} (owned : hall.Owned owner roster)
    (owned' : other.Owned owner roster')
    (same : ∀ client, hall.share owner client = other.share owner client) :
    hall.hub.registry = other.hub.registry ∧ hall.queues = other.queues := by
  constructor
  · have rosters : roster = roster' := by
      apply Std.ExtTreeMap.ext_getElem?
      intro client
      rw [← owned.mirrors.seat?_eq, ← owned'.mirrors.seat?_eq]
      exact congrArg Share.seat (same client)
    subst rosters
    exact owned.mirrors.unique owned'.mirrors
  · apply Std.ExtTreeMap.ext_getElem?
    intro id
    have queue := congrFun (congrArg Share.queue (same (owner id))) id
    simpa only [share, if_true] using queue

end Owned

/-- Runs in which every client's moves come in the same order lead to the same registry and the same
    queues. -/
theorem reordered (queues : Queues) {moves others : List HallMove}
    (fair : ∀ move ∈ moves, move.Fair owner) (fair' : ∀ move ∈ others, move.Fair owner)
    (same : ∀ client, moves.filter (HallMove.concerns owner client) =
      others.filter (HallMove.concerns owner client)) :
    let after := (play Hall.step { queues } moves).2
    let after' := (play Hall.step { queues } others).2
    after.hub.registry = after'.hub.registry ∧ after.queues = after'.queues := by
  intro after after'
  have start : Owned owner { queues } ∅ := .start queues
  obtain ⟨roster, owned⟩ := start.run fair
  obtain ⟨roster', owned'⟩ := start.run fair'
  refine owned.eq_of_share owned' fun client => ?_
  have own := congrArg Prod.snd (start.share_run client fair)
  have own' := congrArg Prod.snd (start.share_run client fair')
  rw [← play_filter Share.step_idle] at own own'
  rw [same client] at own
  exact own.trans own'.symm

end Hall

/-- Clients are isolated from each other. What a client has at the end of a run, and what it is told
    on the way, is what it would have had and been told in the run of its own moves and the
    broadcasts alone: the steps of an automaton that knows nothing of others. In particular two
    commands about different clients can be exchanged. -/
theorem clients_are_isolated (owner : QueueId → ClientId) (queues : Queues) (moves : List HallMove)
    (fair : ∀ move ∈ moves, move.Fair owner) :
    (∀ client,
      let own := moves.filter (HallMove.concerns owner client)
      let whole := play Hall.step { queues } moves
      let alone := play Hall.step { queues } own
      let told (notices : List HallNotice) := notices.filter (HallNotice.isFor owner client)
      whole.2.share owner client = alone.2.share owner client ∧
      told whole.1 = told alone.1 ∧
      (told whole.1, whole.2.share owner client) =
        play (Share.step owner client) (Hall.share owner client { queues }) own ∧
      whole.2.hub.registry.roomOf? client = (whole.2.share owner client).seat.map Prod.fst ∧
      ∀ room handle, whole.2.hub.registry.handleIn? room client = some handle ↔
        (whole.2.share owner client).seat = some (room, handle)) ∧
    ∀ before fanout fanout' first second after,
      moves = before ++ .process fanout first :: .process fanout' second :: after →
      (∃ client other, first.subject? = some client ∧ second.subject? = some other ∧
        client ≠ other) →
      let whole := (play Hall.step { queues } moves).2
      let exchanged := (play Hall.step { queues }
        (before ++ .process fanout' second :: .process fanout first :: after)).2
      exchanged.hub.registry = whole.hub.registry ∧ exchanged.queues = whole.queues := by
  have start : Hall.Owned owner { queues } ∅ := .start queues
  refine ⟨fun client => ?_, ?_⟩
  · intro own whole alone told
    have fair' : ∀ move ∈ own, move.Fair owner := fun move member =>
      fair move (List.mem_filter.mp member).1
    have steps := start.share_run client fair
    have steps' := start.share_run client fair'
    rw [← play_filter Share.step_idle] at steps
    have same := steps.trans steps'.symm
    obtain ⟨roster, owned⟩ := start.run fair
    exact ⟨congrArg Prod.snd same, congrArg Prod.fst same, steps, owned.index_eq client,
      owned.stored_iff client⟩
  · rintro before fanout fanout' first second after rfl ⟨client, other, one, two, apart⟩
    refine Hall.reordered queues (fun move member => fair move ?_) fair fun watcher => ?_
    · simp only [List.mem_append, List.mem_cons] at member ⊢
      tauto
    · have apart' : ¬ (client = watcher ∧ other = watcher) := by
        rintro ⟨rfl, rfl⟩
        exact apart rfl
      by_cases mine : client = watcher <;>
        simp_all [List.filter_cons, HallMove.concerns]

/-- A client whose queue is full loses its place, and another one in its room goes on reading. -/
theorem clients_are_isolated_eviction :
    let owner (queue : QueueId) : ClientId := queue
    let queues : Queues := (∅ : Queues).insert 1 { bound := 1 } |>.insert 2 { bound := 4 }
    let say (payload : Bytes) : HallMove := .process none (.broadcast ⟨"a", payload, .here⟩)
    let moves : List HallMove := [.process none (.join "a" ⟨1, 1⟩), .process none (.join "a" ⟨2, 2⟩),
      say [7], .receive 2, say [8], .process none (.switch 1 "b"), .receive 2]
    let run := play Hall.step { queues } moves
    (∀ move ∈ moves, move.Fair owner) ∧
    run.2.hub.registry.roomOf? 1 = none ∧
    run.1.filter (HallNotice.isFor owner 1) = [.removed 1 ⟨"a", [8], .here⟩] ∧
    run.2.hub.registry.roomOf? 2 = some "a" ∧
    run.1.filter (HallNotice.isFor owner 2) = [.received 2 (.payload [7]), .received 2 (.payload [8])] := by
  intro owner queues say moves
  have fair : ∀ move ∈ moves, move.Fair owner := by
    simp [moves, say, owner, HallMove.Fair, EventLoop.carried]
  have isolated := (clients_are_isolated owner queues moves fair).1
  obtain ⟨-, -, steps, index, -⟩ := isolated 1
  obtain ⟨-, -, steps', index', -⟩ := isolated 2
  -- only the automata are run
  generalize play Hall.step { queues } moves = run at steps index steps' index' ⊢
  rw [Prod.mk.injEq] at steps steps'
  rw [steps.2] at index
  rw [steps'.2] at index'
  refine ⟨fair, index.trans ?_, steps.1.trans ?_, index'.trans ?_, steps'.1.trans ?_⟩
  · decide +kernel
  · decide +kernel
  · decide +kernel
  · decide +kernel

end ChatRelay
