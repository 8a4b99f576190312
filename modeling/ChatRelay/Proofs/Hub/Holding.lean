import ChatRelay.Proofs.Hub.Traffic

/-! # Who holds a handle

A queue is open as long as somebody holds the handle of its other end: the client that made it, a
request that waits, or the registry. Every step lets go of certain handles, closes their queues, and
leaves all others where somebody holds them.
-/

namespace ChatRelay

namespace World

/-- Every handle that somebody holds. -/
def kept (world : World) : List Handle := world.loose ++ world.loop.held

namespace Sound

variable {world : World} {roster : Roster}

theorem mem_kept (sound : world.Sound roster) {handle : Handle} :
    handle ∈ world.kept ↔
      handle ∈ world.outside ∨ ∃ client, roster.handleOf? client = some handle := by
  simp only [kept, outside, EventLoop.held, List.mem_append, sound.mirrors.mem_handles]
  tauto

/-- No two handles of one queue are held, and none by two. -/
theorem nodup_kept (sound : world.Sound roster) : (world.kept.map Handle.queue).Nodup := by
  have order : world.kept.Perm (world.outside ++ world.loop.hub.registry.handles) := by
    rw [kept, outside, EventLoop.held, List.append_assoc]
    exact List.perm_append_comm.append_left _
  rw [(order.map _).nodup_iff, List.map_append]
  refine sound.distinct.append (sound.mirrors.nodup_handles sound.unshared) ?_
  intro id here there
  obtain ⟨given, held, rfl⟩ := List.mem_map.mp here
  obtain ⟨handle, stored, same⟩ := List.mem_map.mp there
  obtain ⟨client, stored⟩ := sound.mirrors.mem_handles.mp stored
  exact sound.apart given held client handle stored same

theorem eq_of_kept (sound : world.Sound roster) {handle other : Handle} (here : handle ∈ world.kept)
    (there : other ∈ world.kept) (same : handle.queue = other.queue) : handle = other :=
  List.inj_on_of_nodup_map sound.nodup_kept here there same

/-- Only what is held is let go. -/
theorem kept_of_letsGo (sound : world.Sound roster) {move : WorldMove} {handle : Handle}
    (gone : world.LetsGo move handle) : handle ∈ world.kept := by
  cases move with
  | forget given =>
      obtain ⟨held, rfl⟩ := gone
      exact List.mem_append_left _ held
  | submit command => exact List.mem_append_left _ (gone.2.1 gone.2.2.2)
  | stop => exact List.mem_append_right _ gone
  | advance fanout =>
      simp only [LetsGo] at gone
      split at gone
      · obtain ⟨client, dismissed⟩ := gone
        rw [sound.mirrors.seat?_eq] at dismissed
        exact sound.mem_kept.mpr (.inr ⟨client, Command.seat_of_dismissed dismissed⟩)
      · exact List.mem_append_right _ gone.2.2
  | _ => exact gone.elim

/-- What is held after the processing of a command. -/
theorem kept_processing (sound : world.Sound roster) {fanout : Option Bool} {command : Command}
    (processed : world.processing? (.advance fanout) = some command) {handle : Handle} :
    handle ∈ (world.step (.advance fanout)).kept ↔
      handle ∈ world.kept ∧ ¬ world.LetsGo (.advance fanout) handle := by
  have after := sound.step_processing processed
  obtain ⟨fanout', rest, same, running, next⟩ := processing?_eq_some processed
  cases same
  have outside : (world.step (.advance fanout)).outside =
      world.loose ++ rest.flatMap EventLoop.carried := by
    simp only [World.outside, World.step, EventLoop.advance_cons running next]
  have inside (client : ClientId) :
      (roster.processing command world.queues).handleOf? client = some handle ↔
        handle ∈ EventLoop.carried command ∧ handle.client = client ∨
        roster.handleOf? client = some handle ∧
          command.dismissed world.queues.answer client roster[client]? ≠ some handle := by
    rw [Roster.handleOf?, sound.mirrors.getElem?_processing]
    exact Command.handle_seated
  have gone : world.LetsGo (.advance fanout) handle ↔
      ∃ client, command.dismissed world.queues.answer client roster[client]? = some handle := by
    simp only [LetsGo, processed, sound.mirrors.seat?_eq]
  -- only the handle that a client itself has can be taken from it
  have own (client : ClientId) (dismissed :
      command.dismissed world.queues.answer client roster[client]? = some handle) :
      roster.handleOf? client = some handle ∧ handle.client = client := by
    have stored : roster.handleOf? client = some handle := Command.seat_of_dismissed dismissed
    obtain ⟨room, stored'⟩ := Roster.handleOf?_eq_some_iff.mp stored
    exact ⟨stored, sound.mirrors.own client room handle stored'⟩
  have apart : handle ∈ world.outside → ¬ world.LetsGo (.advance fanout) handle := by
    rintro held dismissed
    obtain ⟨client, dismissed⟩ := gone.mp dismissed
    exact sound.apart handle held client handle (own client dismissed).1 rfl
  have before : handle ∈ world.outside ↔
      handle ∈ (world.step (.advance fanout)).outside ∨ handle ∈ EventLoop.carried command := by
    rw [outside, World.outside, next, List.flatMap_cons]
    simp only [List.mem_append]
    tauto
  rw [after.mem_kept, sound.mem_kept]
  simp only [inside]
  constructor
  · rintro (held | ⟨client, ⟨carried, -⟩ | ⟨stored, remains⟩⟩)
    · have held := before.mpr (.inl held)
      exact ⟨.inl held, apart held⟩
    · have held := before.mpr (.inr carried)
      exact ⟨.inl held, apart held⟩
    · refine ⟨.inr ⟨client, stored⟩, fun dismissed => ?_⟩
      obtain ⟨other, dismissed⟩ := gone.mp dismissed
      obtain ⟨room, stored⟩ := Roster.handleOf?_eq_some_iff.mp stored
      have same := sound.mirrors.own client room handle stored
      rw [(own other dismissed).2] at same
      exact remains (same ▸ dismissed)
  · rintro ⟨held | ⟨client, stored⟩, remains⟩
    · rcases before.mp held with held | carried
      · exact .inl held
      · exact .inr ⟨handle.client, .inl ⟨carried, rfl⟩⟩
    · exact .inr ⟨client, .inr ⟨stored, fun dismissed => remains (gone.mpr ⟨client, dismissed⟩)⟩⟩

theorem nodup_loose (sound : world.Sound roster) : world.loose.Nodup :=
  (List.nodup_append.mp (List.Nodup.of_map _ sound.nodup_kept)).1

theorem loose_or_held (sound : world.Sound roster) {handle : Handle} (loose : handle ∈ world.loose) :
    handle ∉ world.loop.held := fun held =>
  (List.nodup_append.mp (List.Nodup.of_map _ sound.nodup_kept)).2.2 handle loose handle held rfl

/-- What is held after some loose handles were let go. -/
theorem kept_diff (sound : world.Sound roster) {gone : List Handle} (loose : gone ⊆ world.loose)
    {handle : Handle} :
    handle ∈ world.loose.diff gone ++ world.loop.held ↔ handle ∈ world.kept ∧ handle ∉ gone := by
  simp only [kept, List.mem_append, sound.nodup_loose.mem_sdiff_iff]
  constructor
  · rintro (⟨free, remains⟩ | held)
    · exact ⟨.inl free, remains⟩
    · exact ⟨.inr held, fun listed => sound.loose_or_held (loose listed) held⟩
  · rintro ⟨free | held, remains⟩
    · exact .inl ⟨free, remains⟩
    · exact .inr held

theorem kept_step (sound : world.Sound roster) (move : WorldMove) {handle : Handle}
    (opened : handle.queue ∈ world.queues) : handle ∈ (world.step move).kept ↔
      handle ∈ world.kept ∧ ¬ world.LetsGo move handle := by
  have ended : handle ∈ (world.step .stop).kept ↔
      handle ∈ world.kept ∧ handle ∉ world.loop.held := by
    have empty : (world.step .stop).kept = world.loose := by
      simp [World.step, kept, EventLoop.stop, EventLoop.held, Registry.handles]
    rw [empty, kept, List.mem_append]
    have apart : handle ∈ world.loose → handle ∉ world.loop.held := sound.loose_or_held
    tauto
  cases move with
  | connect given capacity =>
      simp only [World.step]
      split
      · simp [LetsGo]
      · next new =>
          have other : handle ≠ given := fun same => new (same ▸ opened)
          simp [kept, LetsGo, other]
  | forget given =>
      simp only [World.step, LetsGo]
      split
      · next held =>
          rw [← List.diff_nil (world.loose.erase given), ← List.diff_cons]
          refine (sound.kept_diff (by simpa using held)).trans ?_
          simp [held]
      · next missing => simp [missing]
  | submit command =>
      simp only [LetsGo]
      rcases world.submit_cases command with
        ⟨possible, ⟨running, steps⟩ | ⟨ended, steps⟩⟩ | ⟨idle, steps⟩
      · rw [steps]
        have loose : handle ∈ EventLoop.carried command → handle ∈ world.loose :=
          fun carried => possible.2 carried
        simp only [kept, EventLoop.held, List.flatMap_append, List.flatMap_singleton,
          List.mem_append, sound.nodup_loose.mem_sdiff_iff]
        grind
      · rw [steps]
        refine (sound.kept_diff possible.2).trans ?_
        simp [possible.1, possible.2, ended]
      · rw [steps]
        tauto
  | advance fanout =>
      rcases world.advance_cases fanout with
        ⟨command, rest, processed, -⟩ | ⟨nothing, ⟨abandoned, stops⟩ | ⟨attended, waits⟩⟩
      · exact sound.kept_processing processed
      · rw [stops, ended]
        simp only [LetsGo, nothing, abandoned, true_and]
      · rw [waits]
        simp only [LetsGo, nothing, ← and_assoc, attended, false_and, not_false_eq_true, and_true]
  | stop => exact ended
  | retain =>
      simp only [World.step, LetsGo]
      split <;> simp [kept, EventLoop.held, EventLoop.retain]
  | push given payload =>
      simp only [World.step, LetsGo]
      split <;> simp [kept]
  | _ => simp [World.step, kept, LetsGo, EventLoop.held, EventLoop.drop]

/-- Each step closes the queues of the handles that it lets go of, and no others. -/
theorem held_step (sound : world.Sound roster) (move : WorldMove) {id : QueueId} {queue : Outbound}
    (found : world.queues[id]? = some queue) :
    ∃ after, (world.step move).queues[id]? = some after ∧
      after.Alike (world.touched roster id queue move) ∧
      (after.held = true ↔
        queue.held = true ∧ ¬∃ handle, world.LetsGo move handle ∧ handle.queue = id) := by
  obtain ⟨released, gone, changed⟩ := sound.queues_step move
  have here := changed id
  rw [found, Option.map_some, Option.some_or, Option.map_some] at here
  have listed : id ∈ released.map Handle.queue ↔
      ∃ handle, world.LetsGo move handle ∧ handle.queue = id := by
    simp only [List.mem_map, gone]
  refine ⟨_, here, ?_, ?_⟩
  · split
    · exact ⟨rfl, rfl⟩
    · exact .refl _
  · rw [← listed]
    split <;> simp_all [held_touched, Outbound.release]

end Sound

/-- A queue is open exactly as long as somebody holds its handle, and nothing waits for a loop that
    has ended. -/
structure Live (world : World) : Prop where
  open_iff : ∀ id queue, world.queues[id]? = some queue →
    (queue.held = true ↔ ∃ handle ∈ world.kept, handle.queue = id)
  idle : world.loop.running = false → world.loop.pending = []

namespace Live

variable {world : World} {roster : Roster}

theorem start (capacity : Nat) : (World.start capacity).Live where
  open_iff id queue found := by simp [World.start] at found
  idle ended := rfl

theorem step (live : world.Live) (sound : world.Sound roster) (move : WorldMove) :
    (world.step move).Live where
  open_iff id queue found := by
    cases before : world.queues[id]? with
    | some old =>
        obtain ⟨after, next, -, held⟩ := sound.held_step move before
        rw [found] at next
        cases next
        have opened (handle : Handle) (same : handle.queue = id) : handle.queue ∈ world.queues := by
          rw [same, Std.ExtTreeMap.mem_iff_isSome_getElem?, before]
          rfl
        rw [held, live.open_iff id old before]
        constructor
        · rintro ⟨⟨handle, kept, same⟩, remains⟩
          refine ⟨handle, ?_, same⟩
          exact (sound.kept_step move (opened handle same)).mpr
            ⟨kept, fun gone => remains ⟨handle, gone, same⟩⟩
        · rintro ⟨handle, kept, same⟩
          obtain ⟨kept, remains⟩ := (sound.kept_step move (opened handle same)).mp kept
          refine ⟨⟨handle, kept, same⟩, ?_⟩
          rintro ⟨other, gone, same'⟩
          have one := sound.eq_of_kept (sound.kept_of_letsGo gone) kept (same'.trans same.symm)
          exact remains (one ▸ gone)
    | none =>
        obtain ⟨released, gone, changed⟩ := sound.queues_step move
        have here := changed id
        rw [found, before, Option.map_none, Option.none_or] at here
        obtain ⟨new, born, here⟩ := Option.map_eq_some_iff.mp here.symm
        obtain ⟨handle, capacity, rfl, rfl, rfl⟩ := eq_connect_of_born? born
        have none : released = [] := List.eq_nil_iff_forall_not_mem.mpr fun handle => (gone handle).mp
        have fresh : handle.queue ∉ world.queues := by
          simp [Std.ExtTreeMap.mem_iff_isSome_getElem?, before]
        subst none
        cases here
        refine ⟨fun _ => ⟨handle, ?_, rfl⟩, fun _ => rfl⟩
        simp [World.step, kept, fresh]
  idle ended := by
    cases move with
    | submit command =>
        rcases world.submit_cases command with ⟨-, ⟨running, steps⟩ | ⟨-, steps⟩⟩ | ⟨-, steps⟩
        · rw [steps] at ended
          cases running.symm.trans ended
        · rw [steps] at ended ⊢
          exact live.idle ended
        · rw [steps] at ended ⊢
          exact live.idle ended
    | advance fanout =>
        rcases world.advance_cases fanout with
          ⟨command, rest, processed, -, steps⟩ | ⟨-, ⟨-, stops⟩ | ⟨-, waits⟩⟩
        · obtain ⟨-, -, -, running, -⟩ := processing?_eq_some processed
          rw [steps] at ended
          cases running.symm.trans ended
        · rw [stops]
          rfl
        · rw [waits] at ended ⊢
          exact live.idle ended
    | stop => rfl
    | connect | push | forget | retain =>
        have before : world.loop.running = false := by
          rw [← ended]
          simp only [World.step]
          split <;> rfl
        simp only [World.step]
        split <;> exact live.idle before
    | drop | receive | close | discard => exact live.idle ended

/-- Nobody puts anything into a queue that is closed. -/
theorem backlog_touched (live : world.Live) (sound : world.Sound roster) {id : QueueId}
    {queue : Outbound} (found : world.queues[id]? = some queue) (closed : queue.held = false)
    {move : WorldMove} (keeps : move ≠ .discard id) :
    (world.touched roster id queue move).backlog =
      match move with
      | .receive other => if other = id then queue.backlog.tail else queue.backlog
      | _ => queue.backlog := by
  have nobody (handle : Handle) (kept : handle ∈ world.kept) : handle.queue ≠ id := by
    intro same
    have held := (live.open_iff id queue found).mpr ⟨handle, kept, same⟩
    exact nomatch closed.symm.trans held
  cases move with
  | push handle payload =>
      have absent : ¬(handle ∈ world.loose ∧ handle.queue = id) := fun both =>
        nobody handle (List.mem_append_left _ both.1) both.2
      simp only [touched, if_neg absent]
  | advance fanout =>
      simp only [touched]
      split
      · next command processed =>
          cases command with
          | broadcast envelope =>
              have absent : id ∉ (roster.membersOf envelope.room).map
                  fun member => member.2.queue := by
                intro member
                obtain ⟨⟨client, handle⟩, listed, same⟩ := List.mem_map.mp member
                have stored := Roster.handleOf?_eq_some_iff.mpr ⟨_, Roster.mem_membersOf.mp listed⟩
                exact nobody handle (sound.mem_kept.mpr (.inr ⟨client, stored⟩)) same
              simp only [Command.offered, if_neg absent]
          | _ => rfl
      · rfl
  | receive other =>
      simp only [touched]
      split
      · unfold Outbound.receive
        split <;> simp [*]
      · rfl
  | close other =>
      simp only [touched]
      split <;> rfl
  | discard other =>
      have apart : other ≠ id := fun same => keeps (same ▸ rfl)
      simp only [touched, if_neg apart]
  | _ => rfl

end Live

end World
end ChatRelay
