import ChatRelay.Proofs.Hub.Commands
import Mathlib.Data.List.Nodup

/-! # A hub among its clients

The event loop of a hub with everything around it: clients that open queues and hand their handles
in, submitters, and consumers at the other ends of the queues, all taking their steps in any order.

A handle is held in one place at a time: by the client that made it, by a request that waits, or by
the registry. `World.Sound` says so, and every step keeps it.
-/

namespace ChatRelay

/-- An event loop with its surroundings. -/
structure World where
  loop : EventLoop
  queues : Queues := ∅
  /-- Handles that nobody handed in yet. -/
  loose : List Handle := []

/-- A step of one of the parties. -/
inductive WorldMove where
  /-- Open a queue that does not exist yet. -/
  | connect (handle : Handle) (capacity : Nat)
  /-- Offer a payload through a handle that is not handed in. -/
  | push (handle : Handle) (payload : Bytes)
  /-- Let go of a handle that is not handed in. -/
  | forget (handle : Handle)
  /-- Submit a request, with the handle that it carries; nothing happens while the channel is full. -/
  | submit (command : Command)
  /-- Let the loop make a step, if it can. -/
  | advance (fanout : Option Bool)
  | stop
  | retain
  | drop
  /-- Take the oldest payload from a queue. -/
  | receive (queue : QueueId)
  /-- Accept nothing more from a queue. -/
  | close (queue : QueueId)
  /-- Give up a queue with its backlog. -/
  | discard (queue : QueueId)

namespace World

/-- A loop that has just started, and nothing else. -/
def start (capacity : Nat) : World := { loop := .ofCapacity capacity }

/-- One step. A step that is not possible changes nothing. -/
def step (world : World) : WorldMove → World
  | .connect handle capacity =>
      if handle.queue ∈ world.queues then world
      else { world with
        queues := world.queues.insert handle.queue (.ofCapacity capacity)
        loose := handle :: world.loose }
  | .push handle payload =>
      if handle ∈ world.loose then
        { world with queues := (world.queues.offer handle.queue payload).2 }
      else world
  | .forget handle =>
      if handle ∈ world.loose then
        { world with
          queues := world.queues.release [handle]
          loose := world.loose.erase handle }
      else world
  | .submit command =>
      if world.loop.canUpgrade ∧ EventLoop.carried command ⊆ world.loose then
        let loose := world.loose.diff (EventLoop.carried command)
        match world.loop.submit command with
        | (.accepted, loop) => { world with loop, loose }
        | (.waiting, _) => world
        | (.refused, _) =>
            { world with queues := world.queues.release (EventLoop.carried command), loose }
      else world
  | .advance fanout =>
      match world.loop.advance fanout world.queues with
      | some (_, loop, queues) => { world with loop, queues }
      | none => world
  | .stop =>
      let (loop, queues) := world.loop.stop world.queues
      { world with loop, queues }
  | .retain => if world.loop.canUpgrade then { world with loop := world.loop.retain } else world
  | .drop => { world with loop := world.loop.drop }
  | .receive queue => { world with queues := (world.queues.receive queue).2 }
  | .close queue => { world with queues := world.queues.update queue Outbound.close }
  | .discard queue => { world with queues := world.queues.update queue Outbound.discard }

/-- The world after some steps. -/
def run (world : World) (moves : List WorldMove) : World := moves.foldl step world

/-- The command that a step processes. -/
def processing? (world : World) : WorldMove → Option Command
  | .advance _ => if world.loop.running then world.loop.pending.head? else none
  | _ => none

/-- What the loop reports in a step. -/
def reports (world : World) : WorldMove → List Event
  | .advance fanout =>
      match world.loop.advance fanout world.queues with
      | some (events, _, _) => events
      | none => []
  | _ => []

/-- The handles that the registry does not hold. -/
def outside (world : World) : List Handle :=
  world.loose ++ world.loop.pending.flatMap EventLoop.carried

theorem processing?_eq_some {world : World} {move : WorldMove} {command : Command}
    (processed : world.processing? move = some command) :
    ∃ fanout rest, move = .advance fanout ∧ world.loop.running = true ∧
      world.loop.pending = command :: rest := by
  cases move with
  | advance fanout =>
      simp only [processing?] at processed
      split at processed
      · next running =>
          obtain ⟨rest, next⟩ := List.head?_eq_some_iff.mp processed
          exact ⟨fanout, rest, rfl, running, next⟩
      · exact nomatch processed
  | _ => exact nomatch processed

/-- A request is accepted, or the loop has ended and it is refused, or nothing comes of it. -/
theorem submit_cases (world : World) (command : Command) :
    (world.loop.canUpgrade = true ∧ EventLoop.carried command ⊆ world.loose) ∧
        (world.loop.running = true ∧ world.step (.submit command) =
            { world with
              loop := { world.loop with pending := world.loop.pending ++ [command] }
              loose := world.loose.diff (EventLoop.carried command) } ∨
          world.loop.running = false ∧ world.step (.submit command) =
            { world with
              queues := world.queues.release (EventLoop.carried command)
              loose := world.loose.diff (EventLoop.carried command) }) ∨
      ¬((world.loop.canUpgrade = true ∧ EventLoop.carried command ⊆ world.loose) ∧
          world.loop.running = false) ∧ world.step (.submit command) = world := by
  by_cases possible : world.loop.canUpgrade = true ∧ EventLoop.carried command ⊆ world.loose
  · simp only [step, if_pos possible]
    split
    · next loop accepted =>
        rw [EventLoop.eq_of_submit accepted]
        exact .inl ⟨possible, .inl ⟨EventLoop.running_of_submit accepted, rfl⟩⟩
    · next waiting =>
        have running := EventLoop.running_of_submit waiting
        exact .inr ⟨by simp [running], rfl⟩
    · next refused =>
        exact .inl ⟨possible, .inr ⟨EventLoop.running_of_submit refused, rfl⟩⟩
  · exact .inr ⟨fun both => possible both.1, by simp only [step, if_neg possible]⟩

/-- Nothing happens while the channel is full. -/
theorem step_submit_waiting {world : World} {command : Command}
    (waiting : (world.loop.submit command).1 = .waiting) : world.step (.submit command) = world := by
  simp only [step]
  split
  · split
    · next accepted => simp [accepted] at waiting
    · rfl
    · next refused => simp [refused] at waiting
  · rfl

/-- A request that does not have to wait takes its handle along. -/
theorem loose_step_submit {world : World} {command : Command}
    (possible : world.loop.canUpgrade = true ∧ EventLoop.carried command ⊆ world.loose)
    (sent : (world.loop.submit command).1 ≠ .waiting) :
    (world.step (.submit command)).loose = world.loose.diff (EventLoop.carried command) := by
  simp only [step, if_pos possible]
  split
  · rfl
  · next waiting => simp [waiting] at sent
  · rfl

/-- What a step leaves of the handles that were not handed in. -/
theorem mem_loose_step {world : World} {handle : Handle} (loose : handle ∈ world.loose)
    {move : WorldMove} (remains : move ≠ .forget handle)
    (other : ∀ command, move = .submit command → handle ∉ EventLoop.carried command) :
    handle ∈ (world.step move).loose := by
  cases move with
  | connect given capacity =>
      simp only [step]
      split
      · exact loose
      · exact List.mem_cons_of_mem _ loose
  | push given payload =>
      simp only [step]
      split <;> exact loose
  | forget given =>
      simp only [step]
      split
      · have apart : handle ≠ given := fun same => remains (congrArg WorldMove.forget same.symm)
        exact (List.mem_erase_of_ne apart).mpr loose
      · exact loose
  | submit command =>
      have left : handle ∈ world.loose.diff (EventLoop.carried command) :=
        List.mem_diff_of_mem loose (other command rfl)
      rcases world.submit_cases command with ⟨-, ⟨-, steps⟩ | ⟨-, steps⟩⟩ | ⟨-, steps⟩
      · rwa [steps]
      · rwa [steps]
      · rwa [steps]
  | advance fanout =>
      simp only [step]
      split <;> exact loose
  | retain =>
      simp only [step]
      split <;> exact loose
  | _ => exact loose

/-- The loop processes its oldest request, or it stops because none can come, or it stays as it
    is. -/
theorem advance_cases (world : World) (fanout : Option Bool) :
    (∃ command rest, world.processing? (.advance fanout) = some command ∧
      world.loop.pending = command :: rest ∧ world.step (.advance fanout) =
        let step := world.loop.hub.process fanout command world.queues
        { world with
          loop := { world.loop with hub := step.hub, pending := rest }, queues := step.queues }) ∨
    world.processing? (.advance fanout) = none ∧
      ((world.loop.running = true ∧ world.loop.handles = 0) ∧
          world.step (.advance fanout) = world.step .stop ∨
        ¬(world.loop.running = true ∧ world.loop.handles = 0) ∧
          world.step (.advance fanout) = world) := by
  cases running : world.loop.running with
  | false =>
      right
      refine ⟨by simp [processing?, running], .inr ⟨by simp, ?_⟩⟩
      simp only [step, EventLoop.advance_ended running]
  | true =>
      cases next : world.loop.pending with
      | nil =>
          right
          refine ⟨by simp [processing?, next], ?_⟩
          simp only [step, EventLoop.advance_nil running next]
          by_cases abandoned : world.loop.handles = 0
          · simp [abandoned]
          · simp [abandoned]
      | cons command rest =>
          left
          refine ⟨command, rest, by simp [processing?, running, next], rfl, ?_⟩
          simp only [step, EventLoop.advance_cons running next]

/-- What a step of the world does to the channel and to the registry: the hub processes the oldest
    request, or it ends, or nothing. -/
theorem channel_cases (world : World) {move : WorldMove} (quiet : ∀ command, move ≠ .submit command) :
    (∃ command rest, world.processing? move = some command ∧
        world.loop.pending = command :: rest ∧ (world.step move).loop.pending = rest) ∨
      (world.step move).loop.pending = world.loop.pending ∧
        (world.step move).loop.hub.registry = world.loop.hub.registry ∨
      (world.step move).loop.pending = [] ∧ (world.step move).loop.hub.registry = {} := by
  cases move with
  | submit command => exact absurd rfl (quiet command)
  | advance fanout =>
      rcases world.advance_cases fanout with
        ⟨command, rest, processed, next, steps⟩ | ⟨-, ⟨-, stops⟩ | ⟨-, waits⟩⟩
      · exact .inl ⟨command, rest, processed, next, by rw [steps]⟩
      · rw [stops]
        exact .inr (.inr ⟨rfl, rfl⟩)
      · rw [waits]
        exact .inr (.inl ⟨rfl, rfl⟩)
  | stop => exact .inr (.inr ⟨rfl, rfl⟩)
  | connect | push | forget | retain =>
      right
      left
      simp only [step]
      split <;> exact ⟨rfl, rfl⟩
  | drop | receive | close | discard => exact .inr (.inl ⟨rfl, rfl⟩)

/-- A step that processes nothing leaves the hub as it is, or ends it. -/
theorem hub_step_idle {world : World} {move : WorldMove} (idle : world.processing? move = none) :
    (world.step move).loop.hub.stats = world.loop.hub.stats ∧
      ((world.step move).loop.running = true →
        world.loop.running = true ∧ (world.step move).loop.hub = world.loop.hub) := by
  cases move with
  | submit command =>
      rcases world.submit_cases command with ⟨-, ⟨-, steps⟩ | ⟨-, steps⟩⟩ | ⟨-, steps⟩
      · rw [steps]
        exact ⟨rfl, fun running => ⟨running, rfl⟩⟩
      · rw [steps]
        exact ⟨rfl, fun running => ⟨running, rfl⟩⟩
      · rw [steps]
        exact ⟨rfl, fun running => ⟨running, rfl⟩⟩
  | advance fanout =>
      rcases world.advance_cases fanout with
        ⟨command, rest, processed, -, -⟩ | ⟨-, ⟨-, stops⟩ | ⟨-, waits⟩⟩
      · exact nomatch idle.symm.trans processed
      · rw [stops]
        exact ⟨rfl, fun running => nomatch running⟩
      · rw [waits]
        exact ⟨rfl, fun running => ⟨running, rfl⟩⟩
  | stop => exact ⟨rfl, fun running => nomatch running⟩
  | connect | push | forget | retain =>
      simp only [step]
      split <;> exact ⟨rfl, fun running => ⟨running, rfl⟩⟩
  | drop | receive | close | discard => exact ⟨rfl, fun running => ⟨running, rfl⟩⟩

theorem reports_processing {world : World} {fanout : Option Bool} {command : Command}
    (processed : world.processing? (.advance fanout) = some command) :
    world.reports (.advance fanout) =
      (world.loop.hub.process fanout command world.queues).events := by
  obtain ⟨_, rest, -, running, next⟩ := processing?_eq_some processed
  simp only [reports, EventLoop.advance_cons running next]

theorem reports_idle {world : World} {move : WorldMove} (idle : world.processing? move = none) :
    world.reports move = [] := by
  cases move with
  | advance fanout =>
      cases running : world.loop.running with
      | false => simp only [reports, EventLoop.advance_ended running]
      | true =>
          have next : world.loop.pending = [] := by simpa [processing?, running] using idle
          simp only [reports, EventLoop.advance_nil running next]
          split
          · next unheld =>
              split at unheld
              · cases unheld
                rfl
              · exact nomatch unheld
          · rfl
  | _ => rfl

/-- A loop that has ended does not run again. -/
theorem running_of_step {world : World} {move : WorldMove}
    (running : (world.step move).loop.running = true) : world.loop.running = true := by
  cases processed : world.processing? move with
  | none => exact ((hub_step_idle processed).2 running).1
  | some command =>
      obtain ⟨-, -, -, before, -⟩ := processing?_eq_some processed
      exact before

/-- Once nobody has the hub, nobody gets it back. -/
theorem unheld_step {world : World} (unheld : world.loop.canUpgrade = false) (move : WorldMove) :
    (world.step move).loop.canUpgrade = false := by
  cases move with
  | submit command =>
      simp only [step]
      rw [if_neg (by simp [unheld])]
      exact unheld
  | advance fanout =>
      rcases world.advance_cases fanout with ⟨_, _, -, -, steps⟩ | ⟨-, ⟨-, stops⟩ | ⟨-, waits⟩⟩
      · rwa [steps]
      · rwa [stops]
      · rwa [waits]
  | drop =>
      have none : world.loop.handles = 0 := by simpa [EventLoop.canUpgrade] using unheld
      simp [step, EventLoop.drop, EventLoop.canUpgrade, none]
  | retain =>
      simp only [step]
      rw [if_neg (by simp [unheld])]
      exact unheld
  | connect | push | forget =>
      simp only [step]
      split <;> exact unheld
  | stop | receive | close | discard => exact unheld

/-- As long as somebody has the hub, it can be had. -/
theorem canUpgrade_step {world : World} (hub : world.loop.canUpgrade = true) {move : WorldMove}
    (others : move = .drop → 1 < world.loop.handles) :
    (world.step move).loop.canUpgrade = true := by
  cases move with
  | submit command =>
      rcases world.submit_cases command with ⟨-, ⟨-, steps⟩ | ⟨-, steps⟩⟩ | ⟨-, steps⟩
      · rwa [steps]
      · rwa [steps]
      · rwa [steps]
  | advance fanout =>
      rcases world.advance_cases fanout with ⟨_, _, -, -, steps⟩ | ⟨-, ⟨-, stops⟩ | ⟨-, waits⟩⟩
      · rwa [steps]
      · rwa [stops]
      · rwa [waits]
  | drop =>
      have more := others rfl
      have some : world.loop.handles - 1 ≠ 0 := by omega
      exact decide_eq_true some
  | retain =>
      simp only [step, if_pos hub]
      simp [EventLoop.canUpgrade, EventLoop.retain]
  | connect | push | forget =>
      simp only [step]
      split <;> exact hub
  | _ => exact hub

/-- What holds between any two steps. Every handle is held once, and its queue exists. -/
structure Sound (world : World) (roster : Roster) : Prop where
  mirrors : world.loop.hub.registry.Mirrors roster
  unshared : roster.Unshared
  distinct : (world.outside.map Handle.queue).Nodup
  apart : ∀ given ∈ world.outside, ∀ client handle, roster.handleOf? client = some handle →
    handle.queue ≠ given.queue
  opened_outside : ∀ given ∈ world.outside, given.queue ∈ world.queues
  opened : ∀ client handle, roster.handleOf? client = some handle → handle.queue ∈ world.queues

/-- Where the handles of a later world come from. None appears that was not there, but for new
    queues. They go from clients to requests and from there to the registry, and never back. -/
structure Stems (before : World) (roster : Roster) (after : World) (roster' : Roster) : Prop where
  queues : ∀ queue ∈ before.queues, queue ∈ after.queues
  loose : ∀ given ∈ after.loose, given ∈ before.loose ∨ given.queue ∉ before.queues
  outside : ∀ given ∈ after.outside, given ∈ before.outside ∨ given.queue ∉ before.queues
  inside : ∀ client handle, roster'.handleOf? client = some handle →
    roster.handleOf? client = some handle ∨ handle ∈ before.outside ∨ handle.queue ∉ before.queues

namespace Stems

variable {before between after : World} {roster roster' roster'' : Roster}

theorem refl (world : World) (roster : Roster) : Stems world roster world roster where
  queues _ := id
  loose _ := .inl
  outside _ := .inl
  inside _ _ := .inl

theorem trans (first : Stems before roster between roster')
    (second : Stems between roster' after roster'') : Stems before roster after roster'' where
  queues queue opened := second.queues queue (first.queues queue opened)
  loose given held := by
    rcases second.loose given held with old | new
    · exact first.loose given old
    · exact .inr fun opened => new (first.queues _ opened)
  outside given held := by
    rcases second.outside given held with old | new
    · exact first.outside given old
    · exact .inr fun opened => new (first.queues _ opened)
  inside client handle kept := by
    rcases second.inside client handle kept with old | held | new
    · exact first.inside client handle old
    · exact .inr (first.outside handle held)
    · exact .inr (.inr fun opened => new (first.queues _ opened))

end Stems

namespace Sound

variable {world after : World} {roster roster' : Roster}

/-- A step that brings no new handle, but may pass some on to the registry. -/
theorem pass (sound : world.Sound roster)
    (mirrors : after.loop.hub.registry.Mirrors roster') (unshared : roster'.Unshared)
    (distinct : (after.outside.map Handle.queue).Nodup)
    (queues : ∀ queue ∈ world.queues, queue ∈ after.queues)
    (loose : after.loose ⊆ world.loose) (outside : after.outside ⊆ world.outside)
    (inside : ∀ client handle, roster'.handleOf? client = some handle →
      roster.handleOf? client = some handle ∨
        handle ∈ world.outside ∧ handle.queue ∉ after.outside.map Handle.queue) :
    after.Sound roster' ∧ Stems world roster after roster' := by
  refine ⟨⟨mirrors, unshared, distinct, ?_, ?_, ?_⟩, ⟨queues, ?_, ?_, ?_⟩⟩
  · intro given held client handle kept same
    rcases inside client handle kept with old | ⟨-, passed⟩
    · exact sound.apart given (outside held) client handle old same
    · exact passed (same ▸ List.mem_map_of_mem held)
  · intro given held
    exact queues _ (sound.opened_outside given (outside held))
  · intro client handle kept
    rcases inside client handle kept with old | ⟨held, -⟩
    · exact queues _ (sound.opened client handle old)
    · exact queues _ (sound.opened_outside handle held)
  · exact fun given held => .inl (loose held)
  · exact fun given held => .inl (outside held)
  · intro client handle kept
    exact (inside client handle kept).imp id fun passed => .inl passed.1

/-- A step that touches nothing but queues. -/
theorem touch (sound : world.Sound roster) {queues : Queues}
    (kept : ∀ queue ∈ world.queues, queue ∈ queues) :
    World.Sound { world with queues } roster ∧ Stems world roster { world with queues } roster :=
  sound.pass sound.mirrors sound.unshared sound.distinct kept (List.Subset.refl _)
    (List.Subset.refl _) fun _ _ held => .inl held

/-- A step that changes the number of handles of the loop. -/
theorem rehandled (sound : world.Sound roster) (handles : Nat) :
    let after := { world with loop := { world.loop with handles } }
    after.Sound roster ∧ Stems world roster after roster :=
  sound.pass sound.mirrors sound.unshared sound.distinct (fun _ opened => opened)
    (List.Subset.refl _) (List.Subset.refl _) fun _ _ held => .inl held

theorem start (capacity : Nat) : (World.start capacity).Sound ∅ where
  mirrors := .empty
  unshared := by simp [Roster.Unshared, Roster.handleOf?]
  distinct := by simp [World.start, outside, EventLoop.ofCapacity]
  apart := by simp [Roster.handleOf?]
  opened_outside := by simp [World.start, outside, EventLoop.ofCapacity]
  opened := by simp [Roster.handleOf?]

theorem connect (sound : world.Sound roster) {handle : Handle} (capacity : Nat)
    (new : handle.queue ∉ world.queues) :
    let after := { world with
      queues := world.queues.insert handle.queue (.ofCapacity capacity)
      loose := handle :: world.loose }
    after.Sound roster ∧ Stems world roster after roster := by
  intro after
  have outside : after.outside = handle :: world.outside := rfl
  have queues : ∀ queue ∈ world.queues, queue ∈ after.queues := by
    intro queue opened
    exact Std.ExtTreeMap.mem_insert.mpr (.inr opened)
  refine ⟨⟨sound.mirrors, sound.unshared, ?_, ?_, ?_, ?_⟩, ⟨queues, ?_, ?_, ?_⟩⟩
  · rw [outside, List.map_cons, List.nodup_cons]
    refine ⟨fun old => new ?_, sound.distinct⟩
    obtain ⟨given, held, same⟩ := List.mem_map.mp old
    exact same ▸ sound.opened_outside given held
  · intro given held client kept present same
    rw [outside] at held
    rcases List.mem_cons.mp held with rfl | old
    · exact new (same ▸ sound.opened client kept present)
    · exact sound.apart given old client kept present same
  · intro given held
    rw [outside] at held
    rcases List.mem_cons.mp held with rfl | old
    · exact Std.ExtTreeMap.mem_insert_self
    · exact queues _ (sound.opened_outside given old)
  · exact fun client kept present => queues _ (sound.opened client kept present)
  · intro given held
    rcases List.mem_cons.mp held with rfl | old
    · exact .inr new
    · exact .inl old
  · intro given held
    rw [outside] at held
    rcases List.mem_cons.mp held with rfl | old
    · exact .inr new
    · exact .inl old
  · exact fun client kept present => .inl present

/-- A step that lets go of loose handles. -/
theorem forget (sound : world.Sound roster) (handles : List Handle) :
    let after := { world with
      queues := world.queues.release handles, loose := world.loose.diff handles }
    after.Sound roster ∧ Stems world roster after roster := by
  intro after
  have fewer : after.outside.Sublist world.outside :=
    (List.diff_sublist _ _).append (List.Sublist.refl _)
  exact sound.pass sound.mirrors sound.unshared (sound.distinct.sublist (fewer.map _))
    (fun _ opened => Queues.mem_release.mpr opened) (List.diff_subset _ _) fewer.subset
    fun _ _ held => .inl held

theorem submit (sound : world.Sound roster) {command : Command}
    (held : EventLoop.carried command ⊆ world.loose) :
    let after := { world with
      loop := { world.loop with pending := world.loop.pending ++ [command] }
      loose := world.loose.diff (EventLoop.carried command) }
    after.Sound roster ∧ Stems world roster after roster := by
  intro after
  have same : after.outside.Perm world.outside := by
    simp only [after, outside, List.flatMap_append, List.flatMap_singleton]
    rcases EventLoop.carried_cases command with none | ⟨handle, one⟩
    · simp [none]
    · rw [one] at held ⊢
      have loose := List.perm_cons_erase (held (List.mem_singleton_self handle))
      have moved : (world.loose.erase handle ++
          (world.loop.pending.flatMap EventLoop.carried ++ [handle])).Perm
          (handle :: world.loose.erase handle ++
            world.loop.pending.flatMap EventLoop.carried) := by
        rw [← List.append_assoc]
        exact List.perm_append_singleton _ _
      rw [List.diff_cons, List.diff_nil]
      exact moved.trans (loose.symm.append_right _)
  exact sound.pass sound.mirrors sound.unshared ((same.map _).nodup_iff.mpr sound.distinct)
    (fun _ opened => opened) (List.diff_subset _ _) same.subset
    fun _ _ held => .inl held

theorem process (sound : world.Sound roster) {command : Command} {rest : List Command}
    (next : world.loop.pending = command :: rest) (fanout : Option Bool) :
    let step := world.loop.hub.process fanout command world.queues
    let after := { world with
      loop := { world.loop with hub := step.hub, pending := rest }, queues := step.queues }
    after.Sound (roster.processing command world.queues) ∧
      Stems world roster after (roster.processing command world.queues) := by
  intro step after
  have outside : world.outside =
      world.loose ++ (EventLoop.carried command ++ rest.flatMap EventLoop.carried) := by
    rw [World.outside, next, List.flatMap_cons]
  have fewer : after.outside.Sublist world.outside := by
    rw [outside]
    exact (List.Sublist.refl _).append (List.sublist_append_right _ _)
  have brought : ∀ given ∈ EventLoop.carried command,
      given ∈ world.outside ∧ given.queue ∉ after.outside.map Handle.queue := by
    intro given carries
    have distinct := sound.distinct
    rw [outside] at distinct ⊢
    rcases EventLoop.carried_cases command with none | ⟨handle, one⟩
    · simp [none] at carries
    · rw [one] at carries distinct ⊢
      rw [List.mem_singleton.mp carries]
      rw [List.singleton_append, List.map_append, List.map_cons, List.nodup_middle,
        ← List.map_append] at distinct
      exact ⟨by simp, (List.nodup_cons.mp distinct).1⟩
  obtain ⟨released, -, changed⟩ := sound.mirrors.process_queues sound.unshared fanout command
    world.queues
  refine sound.pass (sound.mirrors.process sound.unshared fanout command world.queues)
    (sound.mirrors.unshared_processing sound.unshared command world.queues fun given carried =>
      sound.apart given (brought given carried).1)
    (sound.distinct.sublist (fewer.map _)) ?_ (List.Subset.refl _) fewer.subset ?_
  · intro queue opened
    simp only [Std.ExtTreeMap.mem_iff_isSome_getElem?] at opened ⊢
    simpa [after, step, changed] using opened
  · intro client handle kept
    exact (sound.mirrors.handleOf?_processing command world.queues kept).imp id (brought handle)

theorem stop (sound : world.Sound roster) :
    let after := { world with
      loop := (world.loop.stop world.queues).1, queues := (world.loop.stop world.queues).2 }
    after.Sound ∅ ∧ Stems world roster after ∅ := by
  intro after
  have fewer : after.outside.Sublist world.outside := by
    exact (List.Sublist.refl _).append (List.nil_sublist _)
  exact sound.pass .empty (by simp [Roster.Unshared, Roster.handleOf?])
    (sound.distinct.sublist (fewer.map _)) (fun queue opened => Queues.mem_release.mpr opened)
    (List.Subset.refl _) fewer.subset (by simp [Roster.handleOf?])

/-- Every step keeps the handles apart. -/
theorem step (sound : world.Sound roster) (move : WorldMove) :
    ∃ roster', (world.step move).Sound roster' ∧ Stems world roster (world.step move) roster' := by
  have still : world.Sound roster ∧ Stems world roster world roster := ⟨sound, .refl world roster⟩
  cases move with
  | connect handle capacity =>
      simp only [World.step]
      split
      · exact ⟨roster, still⟩
      · next new => exact ⟨roster, sound.connect capacity new⟩
  | push handle payload =>
      simp only [World.step]
      split
      · refine ⟨roster, sound.touch fun queue opened => ?_⟩
        rw [Queues.offer_snd]
        exact Queues.mem_update.mpr opened
      · exact ⟨roster, still⟩
  | forget handle =>
      simp only [World.step]
      split
      · rw [← List.diff_nil (world.loose.erase handle), ← List.diff_cons]
        exact ⟨roster, sound.forget [handle]⟩
      · exact ⟨roster, still⟩
  | submit command =>
      rcases world.submit_cases command with
        ⟨possible, ⟨-, steps⟩ | ⟨-, steps⟩⟩ | ⟨-, steps⟩
      · rw [steps]
        exact ⟨roster, sound.submit possible.2⟩
      · rw [steps]
        exact ⟨roster, sound.forget _⟩
      · rw [steps]
        exact ⟨roster, still⟩
  | advance fanout =>
      rcases world.advance_cases fanout with ⟨command, rest, -, next, steps⟩ | ⟨-, ⟨-, stops⟩ | ⟨-, waits⟩⟩
      · rw [steps]
        exact ⟨_, sound.process next fanout⟩
      · rw [stops]
        exact ⟨∅, sound.stop⟩
      · rw [waits]
        exact ⟨roster, still⟩
  | stop => exact ⟨∅, sound.stop⟩
  | retain =>
      simp only [World.step]
      split
      · exact ⟨roster, sound.rehandled _⟩
      · exact ⟨roster, still⟩
  | drop => exact ⟨roster, sound.rehandled _⟩
  | receive queue =>
      refine ⟨roster, sound.touch fun other opened => ?_⟩
      rw [Queues.receive_snd]
      exact Queues.mem_update.mpr opened
  | close queue => exact ⟨roster, sound.touch fun other opened => Queues.mem_update.mpr opened⟩
  | discard queue => exact ⟨roster, sound.touch fun other opened => Queues.mem_update.mpr opened⟩

theorem run (sound : world.Sound roster) (moves : List WorldMove) :
    ∃ roster', (world.run moves).Sound roster' ∧ Stems world roster (world.run moves) roster' := by
  induction moves generalizing world roster with
  | nil => exact ⟨roster, sound, .refl world roster⟩
  | cons move moves ih =>
      obtain ⟨between, kept, first⟩ := sound.step move
      obtain ⟨last, still, second⟩ := ih kept
      exact ⟨last, still, first.trans second⟩

end Sound

end World
end ChatRelay
