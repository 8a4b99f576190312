import ChatRelay.Proofs.Hub.ReceptionRuns

/-! # One order of all requests

However many callers a hub has and however they take their turns, the hub is as good as one without
a channel that processes the accepted requests at once and one by one, in the order in which they
were accepted. That order keeps the order of every caller. Nothing is processed twice, nothing that
was refused is processed, and a hub that ends because nobody holds it has processed everything.
-/

namespace ChatRelay.Reception

/-- A run of a hub with its callers, as it is seen from outside, is a run of a hub that processes
    the accepted requests one by one. -/
structure Linear (capacity : Nat) (log : List ReceptionMark) (reception : Reception) : Prop where
  /-- A request is accepted while its call is made. -/
  invoked : ∀ before call after, log = before ++ .accepted call :: after → call ∈ calls before
  once : (accepted log).Nodup
  /-- The order of all requests extends the order of every caller. -/
  ordered : ∀ caller, ((accepted log).filter (·.caller = caller)).Sublist
    ((calls log).filter (·.caller = caller))
  /-- A call waits while the channel is full, and fails when the loop has ended. -/
  admitted : ∀ caller call, reception.callers[caller]? = some (.asking call) →
    let marks := (reception.step (.submit caller)).1
    accepted marks =
      (if reception.loop.running ∧ reception.line.length < max capacity 1 then [call] else []) ∧
    failed marks = if reception.loop.running then [] else [call]
  refused : ∀ call ∈ failed log, call ∉ accepted log ∧ call ∉ handled log
  order : handled log ++ reception.line <+: accepted log
  bounded : reception.line.length ≤ max capacity 1
  /-- Nothing in the channel is lost before the loop ends. -/
  running : reception.loop.running = true → handled log ++ reception.line = accepted log
  ended : reception.loop.running = false →
    ReceptionMark.finished ∈ log ∨ ReceptionMark.stopped ∈ log
  finished : ReceptionMark.finished ∈ log → handled log = accepted log
  /-- When nobody holds the hub, nothing more is accepted, and the loop comes to its end. -/
  drained : reception.callers = ∅ →
    (∀ moves, (play step reception moves).2.callers = ∅ ∧
      accepted (play step reception moves).1 = []) ∧
    (reception.loop.running = true → ∀ answers : List Bool,
      answers.length = reception.line.length + 1 →
      let (later, last) := play step reception (rounds answers)
      last.loop.running = false ∧ handled (log ++ later) = accepted log)
  /-- The hub without a channel is sent the processed requests in their order. -/
  turned : (turns log).filterMap Turn.command? = (handled log).map Call.command
  /-- It reports the same to the presence store, to the fanout and to those who wait. -/
  told : reports log = (serial log).1
  state : reception.loop.running = true → (serial log).2 = (reception.loop.hub, reception.queues)
  stats : reception.loop.hub.stats = (serialHub log).stats
  /-- Everybody sees what is counted, and the numbers of rooms and clients perhaps late. -/
  seen : reception.shown = { reception.loop.hub.stats with
    rooms := reception.shown.rooms, clients := reception.shown.clients }
  /-- A snapshot is taken when all requests before it are processed, and no other. From then on
      everybody sees what they have counted, and until the next request exactly that. -/
  snapshots : ∀ before call fanout events after,
    log = before ++ .handled call fanout events :: after → call.operation = .snapshot →
    let hub := serialHub before
    events = [.answered call.ticket hub.registry.snapshot] ∧
      (∃ rest, accepted log = handled before ++ call :: rest) ∧
      hub.stats.Grows reception.shown ∧
      (accepted log = handled before ++ [call] → reception.shown = { hub.stats with
        rooms := hub.registry.snapshot.rooms.length, clients := hub.registry.snapshot.clients })
  /-- What a caller hears is the snapshot that its own request led to. -/
  heard : ∀ call snapshot, ReceptionMark.heard call (.ok snapshot) ∈ log →
    ∃ before fanout after,
      log = before ++ .handled call fanout [.answered call.ticket snapshot] :: after ∧
        call.operation = .snapshot

namespace Sound

variable {capacity : Nat} {log : List ReceptionMark} {reception : Reception}

theorem admitted (sound : Sound capacity log reception) {caller : Nat} {call : Call}
    (found : reception.callers[caller]? = some (.asking call)) :
    accepted (reception.step (.submit caller)).1 =
      (if reception.loop.running ∧ reception.line.length < max capacity 1 then [call] else []) ∧
    failed (reception.step (.submit caller)).1 =
      if reception.loop.running then [] else [call] := by
  have room : reception.loop.capacity ≤ reception.loop.pending.length ↔
      ¬ reception.line.length < max capacity 1 := by
    rw [sound.kept.room, sound.kept.pending, List.length_map, Nat.not_lt]
  simp only [Reception.step, found, submit, EventLoop.submit, room]
  cases reception.loop.running with
  | false => simp
  | true => by_cases free : reception.line.length < max capacity 1 <;> simp [free]

theorem snapshots (sound : Sound capacity log reception) {before after : List ReceptionMark}
    {call : Call} {fanout : Option Bool} {events : List Event}
    (split : log = before ++ .handled call fanout events :: after)
    (asked : call.operation = .snapshot) :
    events = [.answered call.ticket (serialHub before).registry.snapshot] ∧
      (∃ rest, accepted log = handled before ++ call :: rest) ∧
      (serialHub before).stats.Grows reception.shown ∧
      (accepted log = handled before ++ [call] → reception.shown = { (serialHub before).stats with
        rooms := (serialHub before).registry.snapshot.rooms.length
        clients := (serialHub before).registry.snapshot.clients }) := by
  have command : call.command = .snapshot call.ticket := by rw [Call.command, asked]
  have handled : handled log = handled before ++ call :: handled after := by simp [split]
  have counted := counted_serial before
  have stats := sound.replayed.stats
  refine ⟨?_, ?_, ?_, fun last => ?_⟩
  · rw [sound.replayed.events before _ after split call fanout events rfl, command]
    rfl
  · obtain ⟨rest, whole⟩ := sound.served.order
    exact ⟨Reception.handled after ++ reception.line ++ rest, by simp [← whole, handled]⟩
  · have grows := serial_grows before (.handled call fanout events :: after)
    rw [← split, stats] at grows
    rw [sound.shown.totals]
    exact { grows with }
  · -- nothing was processed after the snapshot, so everybody sees what was counted before it
    have rest : Reception.handled after = [] := by
      have whole := sound.served.order
      rw [last, handled] at whole
      have short := whole.length_le
      simp only [List.length_append, List.length_cons, List.length_nil] at short
      exact List.length_eq_zero_iff.mp (by omega)
    have shown : reception.shown = reception.loop.hub.stats := by
      rcases sound.shown.late with same | ⟨earlier, call', listed, other⟩
      · exact same
      · rw [handled, rest] at listed
        obtain ⟨-, same⟩ := List.append_inj' listed rfl
        cases same
        exact absurd asked other
    have same : serialHub log = serialHub before := by
      rw [split, List.append_cons, serialHub_unhandled _ rest, serialHub, serial_append]
      simp only [turns_cons, turns_nil, ReceptionMark.turn?, Option.toList_some, List.append_nil,
        command]
      exact counted.recount
    have rooms : (serialHub before).registry.snapshot.rooms.length = (serialHub before).stats.rooms := by
      rw [counted.1, Registry.snapshot, List.length_map, Std.ExtTreeMap.length_toList]
      rfl
    have clients : (serialHub before).registry.snapshot.clients = (serialHub before).stats.clients :=
      counted.2.symm
    rw [shown, ← stats, same, rooms, clients]

theorem linear (sound : Sound capacity log reception) : Linear capacity log reception where
  invoked before call after split := sound.called.invoked before _ after split call rfl
  once := sound.called.once
  ordered := sound.called.ordered
  admitted _ _ := sound.admitted
  refused call failed := by
    have unaccepted := sound.called.apart call failed
    exact ⟨unaccepted, fun handled =>
      unaccepted (sound.served.order.subset (List.mem_append_left _ handled))⟩
  order := sound.served.order
  bounded := sound.kept.bounded
  running running := (sound.served.running running).2
  ended := sound.served.ended
  finished := sound.served.finished
  drained unheld := by
    refine ⟨abandoned sound unheld, fun running answers enough => ?_⟩
    have finished := finishes sound running unheld enough
    have later := sound.play (rounds answers)
    have unaccepted := (abandoned sound unheld (rounds answers)).2
    have listed := List.mem_append_right log finished
    refine ⟨?_, ?_⟩
    · by_contra running
      exact (later.served.running (by simpa using running)).1 listed
    · rw [later.served.finished listed, accepted_append, unaccepted, List.append_nil]
  turned := by
    rw [turns, handled, List.filterMap_filterMap, List.map_filterMap]
    refine List.filterMap_congr fun mark _ => ?_
    cases mark <;> rfl
  told := sound.replayed.told
  state := sound.replayed.state
  stats := sound.replayed.stats.symm
  seen := sound.shown.totals
  snapshots _ _ _ _ _ split asked := sound.snapshots split asked
  heard call snapshot listed := by
    obtain ⟨fanout, handled⟩ := sound.answered.heard call snapshot listed
    obtain ⟨before, after, split⟩ := List.append_of_mem handled
    refine ⟨before, fanout, after, split, ?_⟩
    have given : (call.ticket, snapshot) ∈
        (Hub.turn (serial before).2 (.process call.command fanout)).1.filterMap Event.answer? := by
      rw [← sound.replayed.events before _ after split call fanout _ rfl]
      exact List.mem_singleton_self _
    exact (Call.asked (Answered.of_mem_answers given).1).1

end Sound

/-- Every run of a hub with its callers is that of a hub that processes the accepted requests one by
    one, in one order. -/
theorem requests_have_one_order (capacity : Nat) (attached : Bool) (moves : List ReceptionMove) :
    let (log, reception) := play step (start capacity attached) moves
    Linear capacity log reception :=
  ((Sound.start capacity attached).play moves).linear

end ChatRelay.Reception
