import ChatRelay.Proofs.Hub.World

/-! # What passes through a queue

What is put into a queue, by whoever holds its handle, and what its consumer takes out. A consumer
reads what arrives in its queue, in order, until it gives the backlog up.
-/

namespace ChatRelay

/-- The payload that a consumer found, if it found one. -/
def Received.payloads : Received → List Bytes
  | .payload data => [data]
  | _ => []

namespace Outbound

theorem payloads_receive (queue : Outbound) :
    queue.receive.1.payloads ++ queue.receive.2.backlog = queue.backlog := by
  unfold receive
  split
  · next data rest backlog => simp [Received.payloads, backlog]
  · next backlog => split <;> simp [Received.payloads, backlog]

theorem backlog_offer (queue : Outbound) (data : Bytes) : (queue.offer data).2.backlog =
    queue.backlog ++ if (queue.offer data).1 = .delivered then [data] else [] := by
  unfold offer
  split
  · simp
  · split <;> simp

@[simp] theorem accepting_offer (queue : Outbound) (data : Bytes) :
    (queue.offer data).2.accepting = queue.accepting := by
  unfold offer
  split
  · rfl
  · split <;> rfl

theorem offer_of_closed {queue : Outbound} (closed : queue.accepting = false) (data : Bytes) :
    queue.offer data = (.closed, queue) := by
  simp [offer, closed]

@[simp] theorem accepting_receive (queue : Outbound) :
    queue.receive.2.accepting = queue.accepting := by
  unfold receive
  split <;> rfl

@[simp] theorem held_offer (queue : Outbound) (data : Bytes) :
    (queue.offer data).2.held = queue.held := by
  unfold offer
  split
  · rfl
  · split <;> rfl

@[simp] theorem held_receive (queue : Outbound) : queue.receive.2.held = queue.held := by
  unfold receive
  split <;> rfl

/-- Queues that differ at most in whether the hub's end is held. -/
structure Alike (queue other : Outbound) : Prop where
  backlog : queue.backlog = other.backlog
  accepting : queue.accepting = other.accepting

theorem Alike.refl (queue : Outbound) : Alike queue queue := ⟨rfl, rfl⟩

end Outbound

theorem Queues.offer_fst {queues : Queues} {id : QueueId} {queue : Outbound}
    (found : queues[id]? = some queue) (data : Bytes) :
    (queues.offer id data).1 = (queue.offer data).1 := by
  simp only [offer, found]

theorem Queues.receive_fst {queues : Queues} {id : QueueId} {queue : Outbound}
    (found : queues[id]? = some queue) : (queues.receive id).1 = queue.receive.1 := by
  simp only [receive, found]

/-- What a command adds to a queue. -/
def Command.taken (command : Command) (roster : Roster) (id : QueueId) (queue : Outbound) :
    List Bytes :=
  match command with
  | .broadcast envelope =>
      if id ∈ ((roster.membersOf envelope.room).map fun member => member.2.queue) ∧
          (queue.offer envelope.payload).1 = .delivered then [envelope.payload] else []
  | _ => []

theorem Command.backlog_offered (command : Command) (roster : Roster) (id : QueueId)
    (queue : Outbound) :
    (command.offered roster id queue).backlog = queue.backlog ++ command.taken roster id queue := by
  cases command with
  | broadcast envelope =>
      simp only [offered, taken]
      split
      · next member => simp [Outbound.backlog_offer, member]
      · next other => simp [other]
  | _ => simp [offered, taken]

theorem Command.accepting_offered (command : Command) (roster : Roster) (id : QueueId)
    (queue : Outbound) : (command.offered roster id queue).accepting = queue.accepting := by
  cases command with
  | broadcast envelope =>
      simp only [offered]
      split
      · exact queue.accepting_offer envelope.payload
      · rfl
  | _ => rfl

theorem Command.held_offered (command : Command) (roster : Roster) (id : QueueId)
    (queue : Outbound) : (command.offered roster id queue).held = queue.held := by
  cases command with
  | broadcast envelope =>
      simp only [offered]
      split
      · exact queue.held_offer envelope.payload
      · rfl
  | _ => rfl

namespace World

/-- Payloads that are in a queue; none if it does not exist. -/
def backlog (world : World) (queue : QueueId) : List Bytes :=
  (world.queues[queue]?.map Outbound.backlog).getD []

/-- What a step puts into a queue on behalf of whoever holds its handle. -/
def pushed (queue : QueueId) (world : World) : WorldMove → List Bytes
  | .push handle payload =>
      if handle ∈ world.loose ∧ handle.queue = queue ∧
          (world.queues.offer queue payload).1 = .delivered then [payload] else []
  | _ => []

/-- What a step of the hub adds to a queue. -/
def appended (queue : QueueId) (world : World) (move : WorldMove) : List Bytes :=
  match move with
  | .advance _ | .stop => ((world.step move).backlog queue).drop (world.backlog queue).length
  | _ => []

/-- What a step puts into a queue. -/
def arrived (queue : QueueId) (world : World) (move : WorldMove) : List Bytes :=
  world.pushed queue move ++ world.appended queue move

/-- What a step takes out of a queue for its consumer. -/
def read (queue : QueueId) (world : World) : WorldMove → List Bytes
  | .receive other => if other = queue then (world.queues.receive queue).1.payloads else []
  | _ => []

/-- The consumer accepts nothing more from a queue. -/
def Shut (world : World) (id : QueueId) : Prop :=
  ∃ queue, world.queues[id]? = some queue ∧ queue.accepting = false

/-- What is observed of some steps one after the other. -/
def gather (observe : World → WorldMove → List Bytes) (world : World) : List WorldMove → List Bytes
  | [] => []
  | move :: moves => observe world move ++ gather observe (world.step move) moves

theorem gather_append (observe : World → WorldMove → List Bytes) (world : World)
    (moves later : List WorldMove) : gather observe world (moves ++ later) =
      gather observe world moves ++ gather observe (world.run moves) later := by
  induction moves generalizing world with
  | nil => rfl
  | cons move moves ih => simp only [List.cons_append, gather, ih, List.append_assoc]; rfl

/-- Two observations that agree on worlds of some kind agree over runs of such worlds. -/
theorem gather_congr (Kind : World → Prop) {observe observe' : World → WorldMove → List Bytes}
    (keeps : ∀ world move, Kind world → Kind (world.step move))
    (same : ∀ world move, Kind world → observe world move = observe' world move) {world : World}
    (kind : Kind world) (moves : List WorldMove) :
    gather observe world moves = gather observe' world moves := by
  induction moves generalizing world with
  | nil => rfl
  | cons move moves ih => simp only [gather, same world move kind, ih (keeps world move kind)]

theorem gather_nil (world : World) (moves : List WorldMove) :
    gather (fun _ _ => []) world moves = [] := by
  induction moves generalizing world with
  | nil => rfl
  | cons move moves ih => exact ih (world.step move)

/-- What a step does to a queue that exists, but for letting go of it. -/
def touched (world : World) (roster : Roster) (id : QueueId) (queue : Outbound) (move : WorldMove) :
    Outbound :=
  match move with
  | .push handle payload =>
      if handle ∈ world.loose ∧ handle.queue = id then (queue.offer payload).2 else queue
  | .receive other => if other = id then queue.receive.2 else queue
  | .close other => if other = id then queue.close else queue
  | .discard other => if other = id then queue.discard else queue
  | move =>
      match world.processing? move with
      | some command => command.offered roster id queue
      | none => queue

theorem held_touched (world : World) (roster : Roster) (id : QueueId) (queue : Outbound)
    (move : WorldMove) : (world.touched roster id queue move).held = queue.held := by
  cases move with
  | advance fanout =>
      simp only [touched]
      split
      · exact Command.held_offered _ roster id queue
      · rfl
  | push handle payload =>
      simp only [touched]
      split <;> simp
  | receive other =>
      simp only [touched]
      split <;> simp
  | close other =>
      simp only [touched]
      split <;> rfl
  | discard other =>
      simp only [touched]
      split <;> rfl
  | _ => rfl

/-- A step lets go of a handle, whose queue closes. -/
def LetsGo (world : World) (move : WorldMove) (handle : Handle) : Prop :=
  match move with
  | .forget given => given ∈ world.loose ∧ handle = given
  | .submit command => world.loop.canUpgrade = true ∧ EventLoop.carried command ⊆ world.loose ∧
      world.loop.running = false ∧ handle ∈ EventLoop.carried command
  | .stop => handle ∈ world.loop.held
  | .advance _ =>
      match world.processing? move with
      | some command => ∃ client, command.dismissed world.queues.answer client
          (world.loop.hub.registry.seat? client) = some handle
      | none => world.loop.running = true ∧ world.loop.handles = 0 ∧ handle ∈ world.loop.held
  | _ => False

/-- A queue that a step opens, if it did not exist before. -/
def born? (id : QueueId) : WorldMove → Option Outbound
  | .connect handle capacity =>
      if handle.queue = id then some (.ofCapacity capacity) else none
  | _ => none

theorem eq_connect_of_born? {id : QueueId} {move : WorldMove} {queue : Outbound}
    (born : born? id move = some queue) : ∃ handle capacity,
      move = .connect handle capacity ∧ handle.queue = id ∧ queue = .ofCapacity capacity := by
  unfold born? at born
  split at born
  · next handle capacity =>
      split at born
      · next same =>
          cases born
          exact ⟨handle, capacity, rfl, same, rfl⟩
      · exact nomatch born
  · exact nomatch born

namespace Sound

variable {world : World} {roster : Roster}

/-- A step that processes a command is a step of the roster. -/
theorem step_processing (sound : world.Sound roster) {move : WorldMove} {command : Command}
    (processed : world.processing? move = some command) :
    (world.step move).Sound (roster.processing command world.queues) := by
  obtain ⟨fanout, rest, rfl, running, next⟩ := processing?_eq_some processed
  have after := (sound.process next fanout).1
  simpa only [World.step, EventLoop.advance_cons running next] using after

/-- What a step does to the queues. -/
theorem queues_step (sound : world.Sound roster) (move : WorldMove) :
    ∃ released : List Handle, (∀ handle, handle ∈ released ↔ world.LetsGo move handle) ∧ ∀ id,
      (world.step move).queues[id]? =
        ((world.queues[id]?.map fun queue => world.touched roster id queue move).or
          (born? id move)).map fun queue =>
            if id ∈ released.map Handle.queue then queue.release else queue := by
  have release (handles : List Handle) (id : QueueId) : (world.queues.release handles)[id]? =
      ((world.queues[id]?.map fun queue => queue).or none).map fun queue =>
        if id ∈ handles.map Handle.queue then queue.release else queue := by
    simp [Queues.getElem?_release]
  have still (id : QueueId) : world.queues[id]? =
      ((world.queues[id]?.map fun queue => queue).or none).map fun queue =>
        if id ∈ ([] : List Handle).map Handle.queue then queue.release else queue := by
    simp
  cases move with
  | connect handle capacity =>
      refine ⟨[], by simp [LetsGo], fun id => ?_⟩
      simp only [World.step, touched, processing?, born?]
      by_cases old : handle.queue ∈ world.queues
      · by_cases same : handle.queue = id
        · subst same
          simp [old]
        · simp [old, same]
      · by_cases same : handle.queue = id
        · subst same
          simp [old]
        · simp [old, same, Std.ExtTreeMap.getElem?_insert]
  | push handle payload =>
      refine ⟨[], by simp [LetsGo], fun id => ?_⟩
      simp only [World.step, touched, born?]
      by_cases held : handle ∈ world.loose
      · by_cases same : handle.queue = id <;>
          simp [held, same, Queues.getElem?_offer, Function.comp_def]
      · simp [held]
  | forget handle =>
      simp only [World.step]
      split
      · next held => exact ⟨[handle], by simp [LetsGo, held], release _⟩
      · next missing => exact ⟨[], by simp [LetsGo, missing], still⟩
  | submit command =>
      rcases world.submit_cases command with
        ⟨possible, ⟨running, steps⟩ | ⟨ended, steps⟩⟩ | ⟨idle, steps⟩
      · rw [steps]
        exact ⟨[], by simp [LetsGo, running], still⟩
      · rw [steps]
        exact ⟨_, by simp [LetsGo, ended, possible.1, possible.2], release _⟩
      · rw [steps]
        refine ⟨[], fun handle => ?_, still⟩
        simp only [LetsGo, List.not_mem_nil, false_iff]
        exact fun gone => idle ⟨⟨gone.1, gone.2.1⟩, gone.2.2.1⟩
  | advance fanout =>
      simp only [touched, born?]
      rcases world.advance_cases fanout with ⟨command, rest, processed, -, steps⟩ | ⟨nothing, rests⟩
      · obtain ⟨released, gone, changed⟩ := sound.mirrors.process_queues sound.unshared fanout
          command world.queues
        refine ⟨released, fun handle => ?_, fun id => ?_⟩
        · simp only [LetsGo, processed, sound.mirrors.seat?_eq]
          exact gone handle
        · rw [steps, processed]
          refine (changed id).trans ?_
          simp [Function.comp_def]
      · rw [nothing]
        rcases rests with ⟨abandoned, stops⟩ | ⟨attended, waits⟩
        · rw [stops]
          exact ⟨_, fun handle => by simp [LetsGo, nothing, abandoned], release _⟩
        · rw [waits]
          refine ⟨[], fun handle => ?_, still⟩
          simp only [LetsGo, nothing, List.not_mem_nil, false_iff]
          exact fun gone => attended ⟨gone.1, gone.2.1⟩
  | stop => exact ⟨_, fun handle => .rfl, release _⟩
  | retain =>
      refine ⟨[], by simp [LetsGo], ?_⟩
      simp only [World.step]
      split <;> exact still
  | drop => exact ⟨[], by simp [LetsGo], still⟩
  | receive other =>
      refine ⟨[], by simp [LetsGo], fun id => ?_⟩
      by_cases same : other = id <;>
        simp [World.step, touched, born?, same, Queues.receive_snd, Queues.getElem?_update,
          Function.comp_def]
  | close other =>
      refine ⟨[], by simp [LetsGo], fun id => ?_⟩
      by_cases same : other = id <;>
        simp [World.step, touched, born?, same, Queues.getElem?_update, Function.comp_def]
  | discard other =>
      refine ⟨[], by simp [LetsGo], fun id => ?_⟩
      by_cases same : other = id <;>
        simp [World.step, touched, born?, same, Queues.getElem?_update, Function.comp_def]

/-- What becomes of a queue that exists. -/
theorem queue_step (sound : world.Sound roster) (move : WorldMove) {id : QueueId} {queue : Outbound}
    (found : world.queues[id]? = some queue) :
    ∃ after, (world.step move).queues[id]? = some after ∧
      after.Alike (world.touched roster id queue move) := by
  obtain ⟨released, -, changed⟩ := sound.queues_step move
  have changed := changed id
  rw [found, Option.map_some, Option.some_or, Option.map_some] at changed
  refine ⟨_, changed, ?_⟩
  split
  · exact ⟨rfl, rfl⟩
  · exact .refl _

/-- A queue that does not exist holds nothing after any step. -/
theorem backlog_step_of_absent (sound : world.Sound roster) (move : WorldMove) {id : QueueId}
    (absent : world.queues[id]? = none) : (world.step move).backlog id = [] := by
  obtain ⟨released, -, changed⟩ := sound.queues_step move
  have changed := changed id
  rw [absent, Option.map_none, Option.none_or] at changed
  rw [backlog, changed]
  cases born : born? id move with
  | none => rfl
  | some queue =>
      obtain ⟨handle, capacity, -, -, rfl⟩ := eq_connect_of_born? born
      simp only [Option.map_some, Option.getD_some]
      split <;> rfl

/-- The hub adds to a queue what the command that it processes adds. -/
theorem appended_eq (sound : world.Sound roster) (move : WorldMove) {id : QueueId}
    {queue : Outbound} (found : world.queues[id]? = some queue) :
    world.appended id move = match world.processing? move with
      | some command => command.taken roster id queue
      | none => [] := by
  obtain ⟨after, next, alike⟩ := sound.queue_step move found
  have before : world.backlog id = queue.backlog := by simp [backlog, found]
  have now : (world.step move).backlog id = (world.touched roster id queue move).backlog := by
    simp [backlog, next, alike.backlog]
  cases move with
  | advance fanout =>
      simp only [appended, before, now, touched]
      cases world.processing? (.advance fanout) with
      | none => simp
      | some command => simp [Command.backlog_offered]
  | stop => simp [appended, before, now, touched, processing?]
  | _ => rfl

/-- What arrives in a queue was offered to it or is the payload of a broadcast that waited. -/
theorem mem_arrived (sound : world.Sound roster) {move : WorldMove} {id : QueueId} {payload : Bytes}
    (arrived : payload ∈ world.arrived id move) :
    (∃ handle, move = .push handle payload) ∨
      ∃ envelope : Envelope, .broadcast envelope ∈ world.loop.pending ∧
        envelope.payload = payload := by
  rcases List.mem_append.mp arrived with pushed | appended
  · cases move with
    | push handle data =>
        simp only [World.pushed] at pushed
        split at pushed
        · rw [List.mem_singleton.mp pushed]
          exact .inl ⟨handle, rfl⟩
        · cases pushed
    | _ => cases pushed
  · right
    cases found : world.queues[id]? with
    | none =>
        have now := sound.backlog_step_of_absent move found
        cases move <;> simp [World.appended, now] at appended
    | some queue =>
        rw [sound.appended_eq move found] at appended
        split at appended
        · next command processing =>
            obtain ⟨-, rest, -, -, next⟩ := processing?_eq_some processing
            cases command with
            | broadcast envelope =>
                simp only [Command.taken] at appended
                split at appended
                · refine ⟨envelope, ?_, (List.mem_singleton.mp appended).symm⟩
                  rw [next]
                  exact List.mem_cons_self
                · cases appended
            | _ => cases appended
        · cases appended

/-- What is read in a step, with the backlog after it, is the backlog before it with what arrives in
    the step; unless the backlog is given up, and then the consumer accepts nothing more. -/
theorem flow (sound : world.Sound roster) (move : WorldMove) (id : QueueId) :
    world.read id move ++ (world.step move).backlog id = world.backlog id ++ world.arrived id move ∨
      (world.step move).Shut id ∧ world.read id move ++ (world.step move).backlog id <+:
        world.backlog id ++ world.arrived id move := by
  cases found : world.queues[id]? with
  | none =>
      have before : world.backlog id = [] := by simp [backlog, found]
      have now := sound.backlog_step_of_absent move found
      left
      rw [before, now, List.append_nil, List.nil_append, arrived]
      cases move with
      | push handle payload => simp [read, pushed, appended, Queues.offer, found]
      | receive other => simp [read, pushed, appended, Queues.receive, found, Received.payloads]
      | advance fanout => simp [read, pushed, appended, now]
      | stop => simp [read, pushed, appended, now]
      | _ => rfl
  | some queue =>
      obtain ⟨after, next, alike⟩ := sound.queue_step move found
      have before : world.backlog id = queue.backlog := by simp [backlog, found]
      have now : (world.step move).backlog id = (world.touched roster id queue move).backlog := by
        simp [backlog, next, alike.backlog]
      have appended := sound.appended_eq move found
      rw [before, now, arrived, appended]
      cases move with
      | push handle payload =>
          left
          simp only [read, pushed, touched, Queues.offer_fst found, processing?]
          by_cases here : handle ∈ world.loose ∧ handle.queue = id
          · simp [here, Outbound.backlog_offer]
          · simp [here, ← and_assoc]
      | advance fanout =>
          left
          simp only [read, pushed, touched, List.nil_append]
          cases world.processing? (.advance fanout) with
          | none => simp
          | some command => exact command.backlog_offered roster id queue
      | receive other =>
          left
          simp only [read, pushed, touched, processing?, Queues.receive_fst found, List.append_nil]
          split
          · exact queue.payloads_receive
          · rfl
      | close other =>
          left
          simp only [read, pushed, touched, processing?, List.append_nil, List.nil_append]
          split <;> rfl
      | discard other =>
          by_cases same : other = id
          · right
            refine ⟨⟨after, next, ?_⟩, ?_⟩
            · rw [alike.accepting]
              simp [touched, same, Outbound.discard]
            · simp [read, touched, same, Outbound.discard]
          · left
            simp [read, pushed, touched, processing?, same]
      | _ =>
          left
          simp [read, pushed, touched, processing?]

/-- Nothing arrives in a queue whose consumer accepts nothing. -/
theorem shut_step (sound : world.Sound roster) (move : WorldMove) {id : QueueId}
    (shut : world.Shut id) : (world.step move).Shut id ∧ world.arrived id move = [] := by
  obtain ⟨queue, found, closed⟩ := shut
  obtain ⟨after, next, alike⟩ := sound.queue_step move found
  have refused (data : Bytes) : queue.offer data = (.closed, queue) :=
    Outbound.offer_of_closed closed data
  constructor
  · refine ⟨after, next, alike.accepting.trans ?_⟩
    cases move with
    | push handle payload =>
        simp only [touched]
        split <;> simp [closed]
    | advance fanout =>
        simp only [touched]
        split
        · rw [Command.accepting_offered, closed]
        · exact closed
    | receive other =>
        simp only [touched]
        split <;> simp [closed]
    | close other =>
        simp only [touched]
        split <;> simp [closed, Outbound.close]
    | discard other =>
        simp only [touched]
        split <;> simp [closed, Outbound.discard]
    | _ => exact closed
  · rw [arrived, sound.appended_eq move found]
    cases move with
    | push handle payload => simp [pushed, Queues.offer_fst found, refused, processing?]
    | advance fanout =>
        simp only [pushed, List.nil_append]
        split
        · next command _ =>
            cases command <;> simp [Command.taken, refused]
        · rfl
    | _ => rfl

/-- Nothing ever arrives in a queue whose consumer accepts nothing. -/
theorem gather_arrived_of_shut (sound : world.Sound roster) {id : QueueId} (shut : world.Shut id)
    (moves : List WorldMove) : gather (arrived id) world moves = [] := by
  induction moves generalizing world roster with
  | nil => rfl
  | cons move moves ih =>
      obtain ⟨still, nothing⟩ := sound.shut_step move shut
      obtain ⟨roster', kept, -⟩ := sound.step move
      simp only [gather, nothing, ih kept still, List.append_nil]

/-- What is read, with the backlog at the end, begins the backlog at the start with what arrives. -/
theorem gather_read (sound : world.Sound roster) (id : QueueId) (moves : List WorldMove) :
    gather (read id) world moves ++ (world.run moves).backlog id <+:
      world.backlog id ++ gather (arrived id) world moves := by
  induction moves generalizing world roster with
  | nil => simp [gather, World.run]
  | cons move moves ih =>
      obtain ⟨roster', kept, -⟩ := sound.step move
      have later := ih kept
      simp only [gather, List.append_assoc]
      rcases sound.flow move id with same | ⟨shut, less⟩
      · rw [← List.append_assoc (world.backlog id), ← same, List.append_assoc]
        exact List.prefix_append_right_inj _ |>.mpr later
      · rw [kept.gather_arrived_of_shut shut, List.append_nil] at later ⊢
        exact (List.prefix_append_right_inj _ |>.mpr later).trans less

theorem shut_run (sound : world.Sound roster) {id : QueueId} (shut : world.Shut id)
    (moves : List WorldMove) : (world.run moves).Shut id := by
  induction moves generalizing world roster with
  | nil => exact shut
  | cons move moves ih =>
      obtain ⟨roster', kept, -⟩ := sound.step move
      exact ih kept (sound.shut_step move shut).1

/-- All that arrives is read or waits, unless the consumer accepts nothing more. -/
theorem gather_read_eq (sound : world.Sound roster) (id : QueueId) (moves : List WorldMove) :
    gather (read id) world moves ++ (world.run moves).backlog id =
        world.backlog id ++ gather (arrived id) world moves ∨ (world.run moves).Shut id := by
  induction moves generalizing world roster with
  | nil => exact .inl (by simp [gather, World.run])
  | cons move moves ih =>
      obtain ⟨roster', kept, -⟩ := sound.step move
      rcases ih kept with all | shut
      · rcases sound.flow move id with same | ⟨shut, -⟩
        · left
          change gather _ _ _ ++ ((world.step move).run moves).backlog id = _ at all
          simp only [gather, List.append_assoc]
          rw [← List.append_assoc (world.backlog id), ← same, List.append_assoc]
          exact congrArg _ all
        · exact .inr (kept.shut_run shut moves)
      · exact .inr shut

end Sound

end World
end ChatRelay
