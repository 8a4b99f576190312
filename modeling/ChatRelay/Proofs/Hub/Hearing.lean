import ChatRelay.Proofs.Hub.Traffic

/-! # What a client hears

A handle that was handed in hears the broadcasts to the room that it is in, as long as its queue
takes them. What the hub appends to the queue is what the handle hears, from the moment that it is
handed in, and nothing after it is let go.
-/

namespace ChatRelay

/-- Room in which this very handle is kept. -/
def Registry.station? (registry : Registry) (handle : Handle) : Option String :=
  (registry.roomOf? handle.client).filter fun room =>
    registry.handleIn? room handle.client = some handle

theorem Registry.Mirrors.station?_eq_some_iff {registry : Registry} {roster : Roster}
    (mirrors : registry.Mirrors roster) {handle : Handle} {room : String} :
    registry.station? handle = some room ↔ roster[handle.client]? = some (room, handle) := by
  have index : registry.roomOf? handle.client = roster.roomOf? handle.client :=
    mirrors.index handle.client
  simp only [Registry.station?, index, Option.filter_eq_some_iff, decide_eq_true_eq,
    mirrors.stored]
  exact ⟨And.right, fun stored => ⟨Roster.roomOf?_eq_some_iff.mpr ⟨handle, stored⟩, stored⟩⟩

namespace World

/-- Room in which the registry keeps this very handle. -/
def station? (world : World) (handle : Handle) : Option String :=
  world.loop.hub.registry.station? handle

/-- What a handle hears of a step: the payload of a broadcast to the room that it is in, if it is
    still there afterwards. -/
def heard (handle : Handle) (world : World) (move : WorldMove) : List Bytes :=
  match world.processing? move with
  | some (.broadcast envelope) =>
      if world.station? handle = some envelope.room ∧
          (world.step move).station? handle = some envelope.room then [envelope.payload] else []
  | _ => []

/-- A handle that was handed in: if anybody has a handle of its queue, then it is this one, and the
    registry has it. -/
structure Handed (world : World) (roster : Roster) (handle : Handle) : Prop where
  opened : handle.queue ∈ world.queues
  outside : ∀ given ∈ world.outside, given.queue ≠ handle.queue
  inside : ∀ client kept, roster.handleOf? client = some kept → kept.queue = handle.queue →
    kept = handle

variable {world : World} {roster : Roster} {handle : Handle}

/-- A handle that was handed in is not given back. -/
theorem Handed.later {after : World} {roster' : Roster} (handed : world.Handed roster handle)
    (stems : Stems world roster after roster') : after.Handed roster' handle where
  opened := stems.queues _ handed.opened
  outside given held := by
    rcases stems.outside given held with old | new
    · exact handed.outside given old
    · exact fun same => new (same ▸ handed.opened)
  inside client kept present same := by
    rcases stems.inside client kept present with old | held | new
    · exact handed.inside client kept old same
    · exact absurd same (handed.outside kept held)
    · exact absurd (same ▸ handed.opened) new

namespace Sound

/-- A handle that the registry keeps was handed in. -/
theorem handed (sound : world.Sound roster) {client : ClientId}
    (kept : roster.handleOf? client = some handle) : world.Handed roster handle where
  opened := sound.opened client handle kept
  outside given held := (sound.apart given held client handle kept).symm
  inside other another present same := by
    have own := sound.unshared other client another handle present kept same
    rw [own, kept] at present
    exact (Option.some.inj present).symm

theorem handed_of_station (sound : world.Sound roster) {room : String}
    (stationed : world.station? handle = some room) : world.Handed roster handle :=
  sound.handed (Roster.handleOf?_eq_some_iff.mpr
    ⟨room, sound.mirrors.station?_eq_some_iff.mp stationed⟩)

/-- A queue of which the registry has no handle gets nothing from the hub. -/
theorem appended_of_absent (sound : world.Sound roster) {id : QueueId}
    (absent : ∀ client kept, roster.handleOf? client = some kept → kept.queue ≠ id)
    (move : WorldMove) : world.appended id move = [] := by
  cases found : world.queues[id]? with
  | none =>
      have now := sound.backlog_step_of_absent move found
      cases move with
      | advance fanout => simp [appended, now]
      | stop => simp [appended, now]
      | _ => rfl
  | some queue =>
      have nobody (room : String) :
          id ∉ (roster.membersOf room).map fun member => member.2.queue := by
        intro member
        obtain ⟨⟨client, kept⟩, present, same⟩ := List.mem_map.mp member
        exact absent client kept
          (Roster.handleOf?_eq_some_iff.mpr ⟨room, Roster.mem_membersOf.mp present⟩) same
      rw [sound.appended_eq move found]
      split
      · next command _ => cases command <;> simp [Command.taken, nobody]
      · rfl

/-- A broadcast finds the handles of its room, and keeps those whose queue takes it. -/
theorem station?_broadcast (sound : world.Sound roster) {move : WorldMove} {envelope : Envelope}
    (processed : world.processing? move = some (.broadcast envelope)) (handle : Handle)
    (room : String) :
    (world.step move).station? handle = some room ↔ world.station? handle = some room ∧
      (room ≠ envelope.room ∨
        (world.queues.offer handle.queue envelope.payload).1 = .delivered) := by
  have after := (sound.step_processing processed).mirrors
  rw [station?, station?, after.station?_eq_some_iff, sound.mirrors.station?_eq_some_iff]
  exact Roster.getElem?_expel

/-- What the hub appends to the queue of a handle that was handed in is what the handle hears. -/
theorem appended_eq_heard (sound : world.Sound roster) (handed : world.Handed roster handle)
    (move : WorldMove) : world.appended handle.queue move = world.heard handle move := by
  obtain ⟨queue, found⟩ := Option.isSome_iff_exists.mp
    (Std.ExtTreeMap.mem_iff_isSome_getElem?.mp handed.opened)
  rw [sound.appended_eq move found, heard]
  cases processed : world.processing? move with
  | none => rfl
  | some command =>
      cases command with
      | broadcast envelope =>
          have member : (handle.queue ∈
              (roster.membersOf envelope.room).map fun member => member.2.queue) ↔
              world.station? handle = some envelope.room := by
            rw [station?, sound.mirrors.station?_eq_some_iff, List.mem_map]
            constructor
            · rintro ⟨⟨client, kept⟩, present, same⟩
              have stored := Roster.mem_membersOf.mp present
              have this_one := handed.inside client kept
                (Roster.handleOf?_eq_some_iff.mpr ⟨_, stored⟩) same
              subst this_one
              rwa [sound.mirrors.own client _ kept stored]
            · intro stored
              exact ⟨(handle.client, handle), Roster.mem_membersOf.mpr stored, rfl⟩
          simp only [Command.taken, member, sound.station?_broadcast processed handle,
            Queues.offer_fst found, ne_eq, not_true_eq_false, false_or, and_self_left]
      | _ => rfl

/-- If the registry does not have a handle that was handed in, nobody has one of its queue. -/
theorem absent_of_gone (sound : world.Sound roster) (handed : world.Handed roster handle)
    (gone : world.station? handle = none) (client : ClientId) (kept : Handle)
    (present : roster.handleOf? client = some kept) : kept.queue ≠ handle.queue := by
  intro same
  have this_one := handed.inside client kept present same
  subst this_one
  obtain ⟨room, stored⟩ := Roster.handleOf?_eq_some_iff.mp present
  have here : world.station? kept = some room := by
    rw [station?, sound.mirrors.station?_eq_some_iff, sound.mirrors.own client room kept stored]
    exact stored
  rw [gone] at here
  exact nomatch here

/-- A handle that was let go is not found again. -/
theorem gone_step (sound : world.Sound roster) (handed : world.Handed roster handle)
    (gone : world.station? handle = none) (move : WorldMove) :
    (world.step move).station? handle = none := by
  obtain ⟨roster', kept, stems⟩ := sound.step move
  apply Option.eq_none_iff_forall_ne_some.mpr
  intro room stationed
  rw [station?, kept.mirrors.station?_eq_some_iff] at stationed
  have present := Roster.handleOf?_eq_some_iff.mpr ⟨room, stationed⟩
  rcases stems.inside _ handle present with old | held | new
  · exact sound.absent_of_gone handed gone _ handle old rfl
  · exact handed.outside handle held rfl
  · exact new handed.opened

end Sound

/-- The world is sound and a handle was handed in. -/
def Listening (handle : Handle) (world : World) : Prop :=
  ∃ roster, world.Sound roster ∧ world.Handed roster handle

theorem Listening.step {world : World} (listening : world.Listening handle) (move : WorldMove) :
    (world.step move).Listening handle := by
  obtain ⟨roster, sound, handed⟩ := listening
  obtain ⟨roster', kept, stems⟩ := sound.step move
  exact ⟨roster', kept, handed.later stems⟩

namespace Listening

theorem run (listening : world.Listening handle) (moves : List WorldMove) :
    (world.run moves).Listening handle := by
  induction moves generalizing world with
  | nil => exact listening
  | cons move moves ih => exact ih (listening.step move)

/-- The hub appends what the handle hears. -/
theorem gather_appended (listening : world.Listening handle) (moves : List WorldMove) :
    gather (appended handle.queue) world moves = gather (heard handle) world moves := by
  refine gather_congr (Listening handle) (fun _ move kept => kept.step move) ?_ listening moves
  rintro between move ⟨roster, sound, handed⟩
  exact sound.appended_eq_heard handed move

/-- Nobody else puts anything into the queue. -/
theorem gather_pushed (listening : world.Listening handle) (moves : List WorldMove) :
    gather (pushed handle.queue) world moves = [] := by
  rw [← gather_nil world moves]
  refine gather_congr (Listening handle) (fun _ move kept => kept.step move) ?_ listening moves
  rintro between move ⟨roster, sound, handed⟩
  cases move with
  | push given payload =>
      have other : ¬ (given ∈ between.loose ∧ given.queue = handle.queue) := by
        rintro ⟨held, same⟩
        exact handed.outside given (List.mem_append_left _ held) same
      simp only [pushed, ← and_assoc, other, false_and, if_false]
  | _ => rfl

/-- Once the handle is let go, the hub appends nothing more. -/
theorem silent (listening : world.Listening handle) (gone : world.station? handle = none)
    (moves : List WorldMove) : (world.run moves).station? handle = none ∧
      gather (appended handle.queue) world moves = [] := by
  induction moves generalizing world with
  | nil => exact ⟨gone, rfl⟩
  | cons move moves ih =>
      obtain ⟨roster, sound, handed⟩ := listening
      obtain ⟨still, nothing⟩ := ih (Listening.step ⟨roster, sound, handed⟩ move)
        (sound.gone_step handed gone move)
      refine ⟨still, ?_⟩
      rw [gather, sound.appended_of_absent (sound.absent_of_gone handed gone), nothing]
      rfl

end Listening

/-- Handles that are in the same place throughout hear the same. -/
theorem gather_heard_congr (other : Handle) (moves : List WorldMove)
    (together : ∀ part, part <+: moves →
      (world.run part).station? other = (world.run part).station? handle) :
    gather (heard other) world moves = gather (heard handle) world moves := by
  induction moves generalizing world with
  | nil => rfl
  | cons move moves ih =>
      have before : world.station? other = world.station? handle :=
        together [] List.nil_prefix
      have after : (world.step move).station? other = (world.step move).station? handle :=
        together [move] ⟨moves, rfl⟩
      have now : world.heard other move = world.heard handle move := by
        simp only [heard, before, after]
      have later := ih fun part begins =>
        together (move :: part) ((List.prefix_cons_inj move).mpr begins)
      simp only [gather, now, later]

/-- Before a handle is handed in, the hub appends nothing to its queue. -/
theorem Sound.gather_appended_before (sound : world.Sound roster) (moves : List WorldMove)
    (held : handle ∈ (world.run moves).outside) :
    gather (appended handle.queue) world moves = [] := by
  induction moves generalizing world roster with
  | nil => rfl
  | cons move moves ih =>
      obtain ⟨last, _, stems⟩ := sound.run (move :: moves)
      have absent : ∀ client kept, roster.handleOf? client = some kept →
          kept.queue ≠ handle.queue := by
        intro client kept present
        rcases stems.outside handle held with before | new
        · exact sound.apart handle before client kept present
        · exact fun same => new (same ▸ sound.opened client kept present)
      obtain ⟨roster', after, -⟩ := sound.step move
      rw [gather, sound.appended_of_absent absent, ih after held]
      rfl

/-- What arrives is what is pushed, as long as the hub appends nothing. -/
theorem gather_arrived_of_pushed {id : QueueId} {moves : List WorldMove}
    (nothing : gather (appended id) world moves = []) :
    gather (arrived id) world moves = gather (pushed id) world moves := by
  induction moves generalizing world with
  | nil => rfl
  | cons move moves ih =>
      obtain ⟨now, later⟩ := List.append_eq_nil_iff.mp nothing
      have same : world.arrived id move = world.pushed id move := by
        rw [arrived, now, List.append_nil]
      simp only [gather, same, ih later]

/-- What arrives is what the hub appends, as long as nobody pushes anything. -/
theorem gather_arrived_of_appended {id : QueueId} {moves : List WorldMove}
    (nothing : gather (pushed id) world moves = []) :
    gather (arrived id) world moves = gather (appended id) world moves := by
  induction moves generalizing world with
  | nil => rfl
  | cons move moves ih =>
      obtain ⟨now, later⟩ := List.append_eq_nil_iff.mp nothing
      have same : world.arrived id move = world.appended id move := by
        rw [arrived, now, List.nil_append]
      simp only [gather, same, ih later]

/-- In every run, from the join that hands a handle in, the hub appends to its queue exactly what the
    handle hears: each payload that is broadcast to its room while it is there and that its queue
    takes, in the order of processing. A refusal removes the handle, and once it is removed, nothing
    is appended any more. The consumer reads what was pushed before the join and then what the handle
    hears. Another handle that is in the same place for some time gets the same. -/
theorem hub_appends_what_is_heard (capacity : Nat) (moves later : List WorldMove)
    (fanout : Option Bool) {room : String} {handle : Handle}
    (joins : ((start capacity).run moves).processing? (.advance fanout) =
      some (.join room handle)) :
    let joined := ((start capacity).run moves).step (.advance fanout)
    let after := joined.run later
    let whole := moves ++ .advance fanout :: later
    joined.station? handle = some room ∧
    gather (appended handle.queue) (start capacity) whole = gather (heard handle) joined later ∧
    gather (read handle.queue) (start capacity) whole <+:
      gather (pushed handle.queue) (start capacity) moves ++ gather (heard handle) joined later ∧
    (∀ move envelope, after.processing? move = some (.broadcast envelope) →
      after.station? handle = some envelope.room →
        (after.step move).station? handle =
          if (after.queues.offer handle.queue envelope.payload).1 = .delivered then
            some envelope.room else none) ∧
    (after.station? handle = none → ∀ more, (after.run more).station? handle = none ∧
      gather (appended handle.queue) after more = []) ∧
    ∀ other more, (after.station? other).isSome →
      (∀ part, part <+: more → (after.run part).station? other = (after.run part).station? handle) →
        gather (appended other.queue) after more = gather (appended handle.queue) after more := by
  intro joined after whole
  obtain ⟨roster, sound, _⟩ := (Sound.start capacity).run moves
  have kept : joined.Sound (roster.put room handle) := sound.step_processing joins
  have listening : joined.Listening handle :=
    ⟨_, kept, kept.handed (by rw [Roster.handleOf?_put, if_pos rfl])⟩
  have listening' : after.Listening handle := listening.run later
  have held : handle ∈ ((start capacity).run moves).outside := by
    obtain ⟨_, rest, -, -, next⟩ := processing?_eq_some joins
    rw [outside, next]
    simp [EventLoop.carried]
  have nothing := (Sound.start capacity).gather_appended_before moves held
  have at_join : ((start capacity).run moves).appended handle.queue (.advance fanout) = [] :=
    sound.appended_of_absent (fun client kept present => sound.apart handle held client kept present)
      (.advance fanout)
  refine ⟨?_, ?_, ?_, ?_, listening'.silent, ?_⟩
  · rw [station?, kept.mirrors.station?_eq_some_iff, Roster.getElem?_put, if_pos rfl]
  · rw [gather_append, nothing, gather, at_join, listening.gather_appended]
    rfl
  · have reads := (Sound.start capacity).gather_read handle.queue whole
    have arrivals : gather (arrived handle.queue) (start capacity) whole =
        gather (pushed handle.queue) (start capacity) moves ++ gather (heard handle) joined later := by
      rw [gather_append, gather_arrived_of_pushed nothing, gather, arrived, at_join,
        gather_arrived_of_appended (listening.gather_pushed later), listening.gather_appended]
      rfl
    rw [arrivals] at reads
    exact (List.prefix_append _ _).trans reads
  · intro move envelope processed stationed
    obtain ⟨roster', sound', -⟩ := listening'
    have stays := sound'.station?_broadcast processed handle
    split
    · next taken => exact (stays _).mpr ⟨stationed, .inr taken⟩
    · next refused =>
        apply Option.eq_none_iff_forall_ne_some.mpr
        intro place there
        obtain ⟨here, other | taken⟩ := (stays place).mp there
        · exact other (Option.some.inj (here.symm.trans stationed))
        · exact refused taken
  · intro other more stationed together
    obtain ⟨place, stationed⟩ := Option.isSome_iff_exists.mp stationed
    obtain ⟨roster', sound', -⟩ := listening'
    have other_listening : after.Listening other :=
      ⟨roster', sound', sound'.handed_of_station stationed⟩
    rw [other_listening.gather_appended, (listening.run later).gather_appended]
    exact gather_heard_congr other more together

/-- A client with a backlog joins a room, hears a broadcast there and one in the room that it moves
    to, and nothing of a broadcast that finds its queue full. -/
theorem hub_appends_what_is_heard_moving :
    let moves : List WorldMove :=
      [.connect ⟨1, 1⟩ 2, .push ⟨1, 1⟩ [9], .submit (.join "a" ⟨1, 1⟩)]
    let later : List WorldMove :=
      [.submit (.broadcast ⟨"a", [7], .here⟩), .advance none, .receive 1,
        .submit (.switch 1 "b"), .advance none, .submit (.broadcast ⟨"a", [6], .here⟩),
        .advance none, .submit (.broadcast ⟨"b", [8], .here⟩), .advance none,
        .submit (.broadcast ⟨"b", [5], .here⟩), .advance none, .receive 1]
    ((start 4).run moves).processing? (.advance none) = some (.join "a" ⟨1, 1⟩) ∧
      gather (appended 1) (start 4) (moves ++ .advance none :: later) = [[7], [8]] := by
  intro moves later
  have joins : ((start 4).run moves).processing? (.advance none) = some (.join "a" ⟨1, 1⟩) := by
    decide
  exact ⟨joins, (hub_appends_what_is_heard 4 moves later none joins).2.1.trans (by decide)⟩

end World
end ChatRelay
