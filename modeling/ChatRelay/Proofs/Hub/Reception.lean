import ChatRelay.Proofs.Hub.Channel
import ChatRelay.Proofs.Hub.Turns

/-! # Callers of a hub

Any number of callers hold a hub and call its operations, each one call after the other. A call
waits while the channel is full and comes to an end when its request is accepted or refused, or when
the caller gives it up; a request for a snapshot then waits for the answer. A caller that makes no
call can let go of the hub, and whoever wants to hold it can, as long as somebody else does.

The loop shows its counters to everybody. Those of rooms and clients it brings up to date last, when
the answer to a request for a snapshot is already on its way.
-/

namespace ChatRelay

/-- What a caller can ask of a hub. -/
inductive Operation where
  | join (room : String) (handle : Handle)
  | leave (room : String) (client : ClientId)
  | switch (client : ClientId) (room : String)
  | disconnect (client : ClientId)
  /-- Deliver a payload and share it with other instances. -/
  | broadcast (room : String) (payload : Bytes)
  /-- Deliver what another instance has sent. -/
  | deliverRemote (envelope : Envelope)
  | snapshot
  deriving DecidableEq

/-- A call of an operation. No two calls have one ticket. -/
structure Call where
  caller : Nat
  ticket : Nat
  operation : Operation
  deriving DecidableEq

/-- The request that a call puts into the channel. -/
def Call.command (call : Call) : Command :=
  match call.operation with
  | .join room handle => .join room handle
  | .leave room client => .leave room client
  | .switch client room => .switch client room
  | .disconnect client => .disconnect client
  | .broadcast room payload => .broadcast { room, payload, origin := .here }
  | .deliverRemote envelope => .broadcast envelope
  | .snapshot => .snapshot call.ticket

theorem Call.asked {call : Call} {ticket : Nat} (command : call.command = .snapshot ticket) :
    call.operation = .snapshot ∧ call.ticket = ticket := by
  unfold Call.command at command
  split at command <;> cases command
  exact ⟨by assumption, rfl⟩

/-- What a caller is doing. -/
inductive Caller where
  | idle
  /-- Its request is neither accepted nor refused yet. -/
  | asking (call : Call)
  /-- Its request was accepted, and it waits for the answer. -/
  | awaiting (call : Call)
  deriving DecidableEq

/-- What a caller does once its request is accepted. -/
def Call.afterwards (call : Call) : Caller :=
  if call.operation = .snapshot then .awaiting call else .idle

/-- The answer to a request for a snapshot. -/
def Event.answer? : Event → Option (Nat × Snapshot)
  | .answered ticket snapshot => some (ticket, snapshot)
  | _ => none

/-- A hub with its callers. -/
structure Reception where
  loop : EventLoop
  queues : Queues := ∅
  /-- Whether the hub has a fanout. -/
  attached : Bool
  /-- The counters as everybody sees them. -/
  shown : HubStats := {}
  callers : Std.ExtTreeMap Nat Caller
  /-- The next ticket. -/
  tickets : Nat := 0
  /-- The calls whose requests are in the channel, oldest first. -/
  line : List Call := []
  /-- Snapshots by the tickets of the calls that they answer. -/
  answers : List (Nat × Snapshot) := []

inductive ReceptionMove where
  /-- Somebody comes to hold the hub. -/
  | acquire (caller : Nat)
  /-- A caller lets go of the hub. -/
  | release (caller : Nat)
  | call (caller : Nat) (operation : Operation)
  /-- A call tries the channel. -/
  | submit (caller : Nat)
  /-- A caller gives up its call. -/
  | withdraw (caller : Nat)
  /-- A caller looks for the answer that it waits for. -/
  | hear (caller : Nat)
  /-- The loop processes the next request, or ends if none can come. -/
  | take (accepts : Bool)
  /-- The loop shows its numbers of rooms and clients. -/
  | count
  /-- The loop is stopped from outside. -/
  | stop
  /-- Something happens to the outbound queues. -/
  | elsewhere (change : Queues → Queues)

/-- What can be seen of a move. -/
inductive ReceptionMark where
  | called (call : Call)
  | accepted (call : Call)
  | refused (call : Call)
  | withdrawn (call : Call)
  /-- The hub has processed a request. -/
  | handled (call : Call) (fanout : Option Bool) (events : List Event)
  | heard (call : Call) (answer : Except HubError Snapshot)
  /-- The loop has ended because nobody held the hub. -/
  | finished
  /-- The loop was stopped. -/
  | stopped
  | changed (change : Queues → Queues)

namespace Reception

/-- A hub that has just started, held by the caller that started it. -/
def start (capacity : Nat) (attached : Bool) : Reception :=
  { loop := .ofCapacity capacity, attached, callers := (∅ : Std.ExtTreeMap Nat Caller).insert 0 .idle }

/-- What the fanout says if there is one. -/
def fanout (reception : Reception) (accepts : Bool) : Option Bool :=
  if reception.attached then some accepts else none

/-- The reception with a caller doing something else. -/
def turnTo (reception : Reception) (caller : Nat) (doing : Caller) : Reception :=
  { reception with callers := reception.callers.insert caller doing }

/-- The reception without the client handle of a call that came to nothing. -/
def lose (reception : Reception) (call : Call) : Reception :=
  { reception with queues := reception.queues.release (EventLoop.carried call.command) }

/-- The channel is gone with all that is in it. -/
def ended (reception : Reception) : Reception :=
  { reception with
    loop := (reception.loop.stop reception.queues).1
    queues := (reception.loop.stop reception.queues).2
    line := [] }

/-- A call tries the channel. -/
def submit (reception : Reception) (caller : Nat) (call : Call) : List ReceptionMark × Reception :=
  match reception.loop.submit call.command with
  | (.accepted, loop) =>
      ([.accepted call],
        { reception with loop, line := reception.line ++ [call] }.turnTo caller call.afterwards)
  | (.waiting, _) => ([], reception)
  | (.refused, _) =>
      ([.refused call, .changed (·.release (EventLoop.carried call.command))],
        (reception.lose call).turnTo caller .idle)

/-- The loop makes a step. It shows what it has counted, but for rooms and clients. -/
def take (reception : Reception) (accepts : Bool) : List ReceptionMark × Reception :=
  match reception.loop.advance (reception.fanout accepts) reception.queues, reception.line with
  | none, _ => ([], reception)
  | some (events, loop, queues), call :: line =>
      ([.handled call (reception.fanout accepts) events],
        { reception with
          loop
          queues
          line
          shown := { loop.hub.stats with
            rooms := reception.shown.rooms, clients := reception.shown.clients }
          answers := reception.answers ++ events.filterMap Event.answer? })
  | some (_, loop, queues), [] => ([.finished], { reception with loop, queues, line := [] })

/-- A caller has the answer that it waits for, or it learns that there will be none. -/
def hear (reception : Reception) (caller : Nat) (call : Call) : List ReceptionMark × Reception :=
  match reception.answers.lookup call.ticket with
  | some snapshot => ([.heard call (.ok snapshot)], reception.turnTo caller .idle)
  | none =>
      if reception.loop.running then ([], reception)
      else ([.heard call (.error .closed)], reception.turnTo caller .idle)

/-- One move. A move that is not possible changes nothing. The loop does not go on before it has
    shown all its counters. -/
def step (reception : Reception) : ReceptionMove → List ReceptionMark × Reception
  | .acquire caller =>
      if reception.loop.canUpgrade ∧ caller ∉ reception.callers then
        ([], { reception with loop := reception.loop.retain }.turnTo caller .idle)
      else ([], reception)
  | .release caller =>
      match reception.callers[caller]? with
      | some .idle =>
          ([], { reception with
            loop := reception.loop.drop, callers := reception.callers.erase caller })
      | _ => ([], reception)
  | .call caller operation =>
      match reception.callers[caller]? with
      | some .idle =>
          let call : Call := { caller, ticket := reception.tickets, operation }
          ([.called call],
            { reception with tickets := reception.tickets + 1 }.turnTo caller (.asking call))
      | _ => ([], reception)
  | .submit caller =>
      match reception.callers[caller]? with
      | some (.asking call) => reception.submit caller call
      | _ => ([], reception)
  | .withdraw caller =>
      match reception.callers[caller]? with
      | some (.asking call) =>
          ([.withdrawn call, .changed (·.release (EventLoop.carried call.command))],
            (reception.lose call).turnTo caller .idle)
      | some (.awaiting _) => ([], reception.turnTo caller .idle)
      | _ => ([], reception)
  | .hear caller =>
      match reception.callers[caller]? with
      | some (.awaiting call) => reception.hear caller call
      | _ => ([], reception)
  | .take accepts =>
      if reception.shown = reception.loop.hub.stats then reception.take accepts else ([], reception)
  | .count => ([], { reception with shown := reception.loop.hub.stats })
  | .stop =>
      if reception.loop.running ∧ reception.shown = reception.loop.hub.stats then
        ([.stopped], reception.ended)
      else ([], reception)
  | .elsewhere change => ([.changed change], { reception with queues := change reception.queues })

/-- What a move can do. -/
inductive Moved (reception : Reception) : List ReceptionMark → Reception → Prop where
  | idle : Moved reception [] reception
  | acquired {caller : Nat} (upgrade : reception.loop.canUpgrade = true)
      (new : caller ∉ reception.callers) :
      Moved reception [] ({ reception with loop := reception.loop.retain }.turnTo caller .idle)
  | released {caller : Nat} (found : reception.callers[caller]? = some .idle) :
      Moved reception [] { reception with
        loop := reception.loop.drop, callers := reception.callers.erase caller }
  | called {caller : Nat} {call : Call} (found : reception.callers[caller]? = some .idle)
      (own : call.caller = caller) (ticket : call.ticket = reception.tickets) :
      Moved reception [.called call]
        ({ reception with tickets := reception.tickets + 1 }.turnTo caller (.asking call))
  | accepted {caller : Nat} {call : Call}
      (found : reception.callers[caller]? = some (.asking call))
      (running : reception.loop.running = true)
      (room : reception.loop.pending.length < reception.loop.capacity) :
      Moved reception [.accepted call]
        ({ reception with
          loop := { reception.loop with pending := reception.loop.pending ++ [call.command] }
          line := reception.line ++ [call] }.turnTo caller call.afterwards)
  | failed {caller : Nat} {call : Call} {mark : ReceptionMark}
      (found : reception.callers[caller]? = some (.asking call))
      (kind : mark = .refused call ∨ mark = .withdrawn call) :
      Moved reception [mark, .changed (·.release (EventLoop.carried call.command))]
        ((reception.lose call).turnTo caller .idle)
  | left {caller : Nat} {call : Call}
      (found : reception.callers[caller]? = some (.awaiting call)) :
      Moved reception [] (reception.turnTo caller .idle)
  | heard {caller : Nat} {call : Call} {answer : Except HubError Snapshot}
      (found : reception.callers[caller]? = some (.awaiting call))
      (given : ∀ snapshot, answer = .ok snapshot → (call.ticket, snapshot) ∈ reception.answers) :
      Moved reception [.heard call answer] (reception.turnTo caller .idle)
  | handled {call : Call} {line : List Call} {accepts : Bool} {step : Step}
      (running : reception.loop.running = true) (next : reception.line = call :: line)
      (seen : reception.shown = reception.loop.hub.stats)
      (processed : step =
        reception.loop.hub.process (reception.fanout accepts) call.command reception.queues) :
      Moved reception [.handled call (reception.fanout accepts) step.events] { reception with
        loop := { reception.loop with hub := step.hub, pending := line.map Call.command }
        queues := step.queues
        line
        shown := { step.hub.stats with
          rooms := reception.shown.rooms, clients := reception.shown.clients }
        answers := reception.answers ++ step.events.filterMap Event.answer? }
  | finished (running : reception.loop.running = true) (empty : reception.line = [])
      (unheld : reception.loop.handles = 0) : Moved reception [.finished] reception.ended
  | counted : Moved reception [] { reception with shown := reception.loop.hub.stats }
  | stopped (running : reception.loop.running = true) : Moved reception [.stopped] reception.ended
  | changed (change : Queues → Queues) :
      Moved reception [.changed change] { reception with queues := change reception.queues }

theorem moved_submit (reception : Reception) {caller : Nat} {call : Call}
    (found : reception.callers[caller]? = some (.asking call)) :
    reception.Moved (reception.submit caller call).1 (reception.submit caller call).2 := by
  simp only [submit, EventLoop.submit]
  cases running : reception.loop.running with
  | false => exact .failed found (.inl rfl)
  | true =>
      by_cases full : reception.loop.capacity ≤ reception.loop.pending.length
      · simp only [Bool.not_true, Bool.false_eq_true, if_false, if_pos full]
        exact .idle
      · simp only [Bool.not_true, Bool.false_eq_true, if_false, if_neg full]
        rw [← running]
        exact .accepted found running (Nat.lt_of_not_le full)

theorem moved_take {reception : Reception}
    (pending : reception.loop.pending = reception.line.map Call.command)
    (seen : reception.shown = reception.loop.hub.stats) (accepts : Bool) :
    reception.Moved (reception.take accepts).1 (reception.take accepts).2 := by
  cases running : reception.loop.running with
  | false =>
      rw [take, EventLoop.advance_ended running]
      exact .idle
  | true =>
      cases next : reception.line with
      | nil =>
          rw [next] at pending
          rw [take, EventLoop.advance_nil running pending, next]
          by_cases unheld : reception.loop.handles = 0
          · rw [if_pos unheld]
            exact .finished running next unheld
          · rw [if_neg unheld]
            exact .idle
      | cons call line =>
          rw [next] at pending
          rw [take, EventLoop.advance_cons running pending, next]
          exact .handled running next seen rfl

theorem moved {reception : Reception}
    (pending : reception.loop.pending = reception.line.map Call.command) (move : ReceptionMove) :
    reception.Moved (reception.step move).1 (reception.step move).2 := by
  cases move with
  | acquire caller =>
      simp only [step]
      split
      · next possible => exact .acquired possible.1 possible.2
      · exact .idle
  | release caller =>
      simp only [step]
      split
      · next found => exact .released found
      · exact .idle
  | call caller operation =>
      simp only [step]
      split
      · next found => exact .called found rfl rfl
      · exact .idle
  | submit caller =>
      simp only [step]
      split
      · next call found => exact reception.moved_submit found
      · exact .idle
  | withdraw caller =>
      simp only [step]
      split
      · next call found => exact .failed found (.inr rfl)
      · next call found => exact .left found
      · exact .idle
  | hear caller =>
      simp only [step]
      split
      · next call found =>
          simp only [hear]
          split
          · next snapshot given =>
              refine .heard found fun other same => ?_
              cases same
              obtain ⟨before, after, split, -⟩ := List.lookup_eq_some_iff.mp given
              simp [split]
          · split
            · exact .idle
            · exact .heard found nofun
      · exact .idle
  | take accepts =>
      simp only [step]
      split
      · next seen => exact moved_take pending seen accepts
      · exact .idle
  | count => exact .counted
  | stop =>
      simp only [step]
      split
      · next possible => exact .stopped possible.1
      · exact .idle
  | elsewhere change => exact .changed change

end Reception

namespace ReceptionMark

@[simp] def called? : ReceptionMark → Option Call
  | .called call => some call
  | _ => none

@[simp] def accepted? : ReceptionMark → Option Call
  | .accepted call => some call
  | _ => none

@[simp] def failed? : ReceptionMark → Option Call
  | .refused call | .withdrawn call => some call
  | _ => none

@[simp] def handled? : ReceptionMark → Option Call
  | .handled call _ _ => some call
  | _ => none

@[simp] def events : ReceptionMark → List Event
  | .handled _ _ events => events
  | _ => []

end ReceptionMark

@[simp] def ReceptionMark.turn? : ReceptionMark → Option Turn
  | .handled call fanout _ => some (.process call.command fanout)
  | .changed change => some (.elsewhere change)
  | _ => none

namespace Reception

variable (log later : List ReceptionMark)

/-- The calls, in the order in which they were made. -/
def calls : List Call := log.filterMap ReceptionMark.called?

/-- The calls whose requests were accepted, in the order of the channel. -/
def accepted : List Call := log.filterMap ReceptionMark.accepted?

/-- The calls that were refused or given up. -/
def failed : List Call := log.filterMap ReceptionMark.failed?

/-- The calls whose requests were processed, in that order. -/
def handled : List Call := log.filterMap ReceptionMark.handled?

/-- What the hub has reported. -/
def reports : List Event := log.flatMap ReceptionMark.events

/-- The requests that were processed, with what happened to the queues in between. -/
def turns : List Turn := log.filterMap ReceptionMark.turn?

/-- What a hub without a channel reports of the same requests, and what it has become. -/
def serial : List Event × Hub × Queues := play Hub.turn ({}, ∅) (turns log)

variable (mark : ReceptionMark)

theorem filterMap_cons_toList {α β : Type} (f : α → Option β) (head : α) (tail : List α) :
    (head :: tail).filterMap f = (f head).toList ++ tail.filterMap f := by
  cases found : f head <;> simp [found]

@[simp] theorem calls_nil : calls [] = [] := rfl

@[simp] theorem accepted_nil : accepted [] = [] := rfl

@[simp] theorem failed_nil : failed [] = [] := rfl

@[simp] theorem handled_nil : handled [] = [] := rfl

@[simp] theorem reports_nil : reports [] = [] := rfl

@[simp] theorem turns_nil : turns [] = [] := rfl

@[simp] theorem calls_cons : calls (mark :: log) = mark.called?.toList ++ calls log :=
  filterMap_cons_toList _ _ _

@[simp] theorem calls_append : calls (log ++ later) = calls log ++ calls later :=
  List.filterMap_append

@[simp] theorem accepted_cons : accepted (mark :: log) = mark.accepted?.toList ++ accepted log :=
  filterMap_cons_toList _ _ _

@[simp] theorem accepted_append : accepted (log ++ later) = accepted log ++ accepted later :=
  List.filterMap_append

@[simp] theorem failed_cons : failed (mark :: log) = mark.failed?.toList ++ failed log :=
  filterMap_cons_toList _ _ _

@[simp] theorem failed_append : failed (log ++ later) = failed log ++ failed later :=
  List.filterMap_append

@[simp] theorem handled_cons : handled (mark :: log) = mark.handled?.toList ++ handled log :=
  filterMap_cons_toList _ _ _

@[simp] theorem handled_append : handled (log ++ later) = handled log ++ handled later :=
  List.filterMap_append

@[simp] theorem reports_cons : reports (mark :: log) = mark.events ++ reports log := rfl

@[simp] theorem reports_append : reports (log ++ later) = reports log ++ reports later :=
  List.flatMap_append

@[simp] theorem turns_cons : turns (mark :: log) = mark.turn?.toList ++ turns log :=
  filterMap_cons_toList _ _ _

@[simp] theorem turns_append : turns (log ++ later) = turns log ++ turns later :=
  List.filterMap_append

end Reception
end ChatRelay
