import ChatRelay.Hub.EventLoop

/-! # The channel in front of a hub

What becomes of a request at the channel, and which step the loop takes next.
-/

namespace ChatRelay.EventLoop

variable {loop : EventLoop}

theorem eq_of_submit {later : EventLoop} {command : Command}
    (accepted : loop.submit command = (.accepted, later)) :
    later = { loop with pending := loop.pending ++ [command] } := by
  unfold submit at accepted
  split at accepted
  · exact nomatch accepted
  · split at accepted
    · exact nomatch accepted
    · cases accepted
      rfl

/-- A request is refused by a loop that has ended, and by no other. -/
theorem running_of_submit {later : EventLoop} {command : Command} {submission : Submission}
    (submitted : loop.submit command = (submission, later)) :
    loop.running = decide (submission ≠ .refused) := by
  unfold submit at submitted
  cases running : loop.running with
  | false =>
      simp only [running, Bool.not_false, if_true] at submitted
      cases submitted
      rfl
  | true =>
      simp only [running, Bool.not_true, Bool.false_eq_true, if_false] at submitted
      split at submitted <;> cases submitted <;> rfl

/-- A loop with a request processes it next. -/
theorem advance_cons {command : Command} {rest : List Command} (running : loop.running = true)
    (next : loop.pending = command :: rest) (fanout : Option Bool) (queues : Queues) :
    loop.advance fanout queues =
      let step := loop.hub.process fanout command queues
      some (step.events, { loop with hub := step.hub, pending := rest }, step.queues) := by
  simp [advance, running, next]

/-- A loop without a request waits while requests can come, and stops otherwise. -/
theorem advance_nil (running : loop.running = true) (next : loop.pending = [])
    (fanout : Option Bool) (queues : Queues) :
    loop.advance fanout queues =
      if loop.handles = 0 then some ([], (loop.stop queues).1, (loop.stop queues).2) else none := by
  simp [advance, running, next]

/-- A loop that has ended takes no step. -/
theorem advance_ended (ended : loop.running = false) (fanout : Option Bool) (queues : Queues) :
    loop.advance fanout queues = none := by
  simp [advance, ended]

/-- A request carries at most one handle. -/
theorem carried_cases (command : Command) :
    carried command = [] ∨ ∃ handle, carried command = [handle] := by
  cases command <;> simp [carried]

theorem mem_carried {command : Command} {handle : Handle} :
    handle ∈ carried command ↔ ∃ room, command = .join room handle := by
  cases command <;> simp [carried, eq_comm]

end ChatRelay.EventLoop
