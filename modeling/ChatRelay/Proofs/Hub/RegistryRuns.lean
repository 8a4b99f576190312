import ChatRelay.Proofs.Hub.Delivery
import Mathlib.Data.List.Forall2

/-! # The registry over whole runs

Any sequence of calls leaves the registry the image of the roster that the same calls lead to, and
every answer is the one that the rosters before and after the call give. Handles are given away by
whoever made them, so that no queue comes with two of the joins of a run.
-/

namespace ChatRelay

/-- A call of the registry. A delivery comes with the queues as they are at that moment. -/
inductive RegistryCall where
  | join (room : String) (handle : Handle)
  | leave (room : String) (client : ClientId)
  | disconnect (client : ClientId)
  | switch (client : ClientId) (room : String)
  | deliver (room : String) (payload : Bytes) (queues : Queues)

/-- What a call answers. -/
inductive RegistryAnswer where
  | joined (outcome : JoinOutcome)
  | departed (departure : Option Departure)
  | switched (outcome : Option JoinOutcome)
  | delivered (report : DeliveryReport)
  deriving DecidableEq

/-- The handle that a call gives away. -/
def RegistryCall.given? : RegistryCall → Option Handle
  | .join _ handle => some handle
  | _ => none

namespace Registry

/-- Carry out a call. -/
def perform (registry : Registry) : RegistryCall → RegistryAnswer × Registry
  | .join room handle =>
      let (outcome, _, registry) := registry.join room handle
      (.joined outcome, registry)
  | .leave room client =>
      let (departure, _, registry) := registry.leave room client
      (.departed departure, registry)
  | .disconnect client =>
      let (departure, _, registry) := registry.disconnect client
      (.departed departure, registry)
  | .switch client room =>
      let (outcome, _, registry) := registry.switch client room
      (.switched outcome, registry)
  | .deliver room payload queues =>
      let (report, _, registry, _) := registry.deliver room payload queues
      (.delivered report, registry)

/-- The answer to each call of a run, with the registry after it. -/
def trace (registry : Registry) : List RegistryCall → List (RegistryAnswer × Registry)
  | [] => []
  | call :: calls => registry.perform call :: (registry.perform call).2.trace calls

end Registry

namespace Roster

/-- The roster without the members of a room whose queue refuses a payload. -/
def expel (roster : Roster) (room : String) (payload : Bytes) (queues : Queues) : Roster :=
  roster.without (((roster.membersOf room).filter fun (_, handle) =>
    (queues.offer handle.queue payload).1 ≠ .delivered).map Prod.fst)

/-- The roster after a call. -/
def after (roster : Roster) : RegistryCall → Roster
  | .join room handle => roster.put room handle
  | .leave room client =>
      if roster.roomOf? client = some room then roster.without [client] else roster
  | .disconnect client => roster.without [client]
  | .switch client room => roster.move client room
  | .deliver room payload queues => roster.expel room payload queues

/-- The answer to a call, from the rosters before and after it. -/
def answer (before after : Roster) : RegistryCall → RegistryAnswer
  | .join room handle => .joined (before.arrival after handle.client room)
  | .leave _ client => .departed (before.departure? after client)
  | .disconnect client => .departed (before.departure? after client)
  | .switch client room =>
      .switched (if client ∈ before then some (before.arrival after client room) else none)
  | .deliver room payload queues => .delivered
      { delivered := (before.answering room payload queues .delivered).length
        evicted := before.answering room payload queues .full
        disconnected := before.answering room payload queues .closed
        roomClosed := before.occupied room && !after.occupied room }

/-- The answer to each call of a run, with the roster after it. -/
def trace (roster : Roster) : List RegistryCall → List (RegistryAnswer × Roster)
  | [] => []
  | call :: calls =>
      (roster.answer (roster.after call) call, roster.after call) :: (roster.after call).trace calls

theorem getElem?_expel {roster : Roster} {room place : String} {payload : Bytes} {queues : Queues}
    {client : ClientId} {handle : Handle} :
    (roster.expel room payload queues)[client]? = some (place, handle) ↔
      roster[client]? = some (place, handle) ∧
        (place ≠ room ∨ (queues.offer handle.queue payload).1 = .delivered) := by
  rw [expel, getElem?_without]
  have refused : client ∈ (((roster.membersOf room).filter fun (_, handle) =>
      (queues.offer handle.queue payload).1 ≠ .delivered).map Prod.fst) ↔
      ∃ handle, roster[client]? = some (room, handle) ∧
        (queues.offer handle.queue payload).1 ≠ .delivered := by
    simp [mem_membersOf]
  split <;> grind

theorem handleOf?_move {roster : Roster} {client : ClientId} {room : String}
    (own : ∀ place handle, roster[client]? = some (place, handle) → handle.client = client)
    (other : ClientId) : (roster.move client room).handleOf? other = roster.handleOf? other := by
  unfold move
  split
  · next place handle present =>
      rw [handleOf?_put, own place handle present]
      split
      · next same => simp [← same, handleOf?, present]
      · rfl
  · rfl

end Roster

namespace Registry.Mirrors

variable {registry : Registry} {roster : Roster}

/-- A handle that is kept after a call was kept before it or comes with it. -/
theorem handleOf?_after (mirrors : registry.Mirrors roster) (call : RegistryCall)
    {client : ClientId} {handle : Handle} (kept : (roster.after call).handleOf? client = some handle) :
    roster.handleOf? client = some handle ∨ call.given? = some handle ∧ handle.client = client := by
  cases call with
  | join room given =>
      simp only [Roster.after, Roster.handleOf?_put] at kept
      split at kept
      · next own =>
          cases kept
          exact .inr ⟨rfl, own⟩
      · exact .inl kept
  | leave room leaver =>
      simp only [Roster.after] at kept
      split at kept
      · rw [Roster.handleOf?_without] at kept
        split at kept
        · exact nomatch kept
        · exact .inl kept
      · exact .inl kept
  | disconnect leaver =>
      simp only [Roster.after, Roster.handleOf?_without] at kept
      split at kept
      · exact nomatch kept
      · exact .inl kept
  | switch mover room =>
      rw [Roster.after, Roster.handleOf?_move (mirrors.own mover)] at kept
      exact .inl kept
  | deliver room payload queues =>
      obtain ⟨place, stored⟩ := Roster.handleOf?_eq_some_iff.mp kept
      exact .inl (Roster.handleOf?_eq_some_iff.mpr ⟨place, (Roster.getElem?_expel.mp stored).1⟩)

/-- No queue is shared after a call that gives away a handle of a new one. -/
theorem unshared_after (mirrors : registry.Mirrors roster) (unshared : roster.Unshared)
    (call : RegistryCall)
    (new : ∀ given, call.given? = some given → ∀ client handle,
      roster.handleOf? client = some handle → handle.queue ≠ given.queue) :
    (roster.after call).Unshared := by
  intro client other handle handle' here there same
  rcases mirrors.handleOf?_after call here with old | ⟨given, own⟩ <;>
    rcases mirrors.handleOf?_after call there with old' | ⟨given', own'⟩
  · exact unshared client other handle handle' old old' same
  · exact absurd same (new handle' given' client handle old)
  · exact absurd same.symm (new handle given other handle' old')
  · rw [given] at given'
    cases given'
    exact own.symm.trans own'

/-- The members that a delivery removes are those whose queue refuses the payload. -/
theorem mem_removed (unshared : roster.Unshared) (room : String) (payload : Bytes)
    (queues : Queues) (client : ClientId) :
    client ∈ (offerEach payload (roster.membersOf room) queues).1.removed ↔
      ∃ handle, roster[client]? = some (room, handle) ∧
        (queues.offer handle.queue payload).1 ≠ .delivered := by
  have report := report_offerEach payload queues
    (Roster.nodup_queues_membersOf unshared room)
  have full := roster.mem_answering room payload queues .full client
  have closed := roster.mem_answering room payload queues .closed client
  unfold Roster.answering at full closed
  rw [report, DeliveryReport.removed, List.mem_append, full, closed, ← exists_or]
  refine exists_congr fun handle => ?_
  cases (queues.offer handle.queue payload).1 <;> simp

theorem deliver_unshared (mirrors : registry.Mirrors roster) (unshared : roster.Unshared)
    (room : String) (payload : Bytes) (queues : Queues) :
    (registry.perform (.deliver room payload queues)).1 =
        roster.answer (roster.expel room payload queues) (.deliver room payload queues) ∧
      (registry.perform (.deliver room payload queues)).2.Mirrors
        (roster.expel room payload queues) := by
  obtain ⟨left, call, mirrored⟩ := mirrors.deliver room payload queues
  have report := report_offerEach payload queues
    (Roster.nodup_queues_membersOf unshared room)
  have expelled : roster.without (offerEach payload (roster.membersOf room) queues).1.removed =
      roster.expel room payload queues := by
    apply Std.ExtTreeMap.ext_getElem?
    intro client
    apply Option.ext
    rintro ⟨place, handle⟩
    have gone := mem_removed unshared room payload queues client
    rw [Roster.getElem?_without, Roster.getElem?_expel]
    split <;> grind
  rw [expelled] at call mirrored
  simp only [perform, call]
  refine ⟨?_, mirrored⟩
  rw [report]
  rfl

/-- A call answers from the roster and leaves the image of the roster after it. -/
theorem perform (mirrors : registry.Mirrors roster) (unshared : roster.Unshared)
    (call : RegistryCall) :
    (registry.perform call).1 = roster.answer (roster.after call) call ∧
      (registry.perform call).2.Mirrors (roster.after call) := by
  cases call with
  | join room handle =>
      obtain ⟨joined, call, mirrored⟩ := mirrors.join room handle
      simp only [Registry.perform, call]
      exact ⟨rfl, mirrored⟩
  | leave room client =>
      obtain ⟨left, after, call, mirrored, rfl⟩ := mirrors.leave room client
      simp only [Registry.perform, call]
      exact ⟨rfl, mirrored⟩
  | disconnect client =>
      obtain ⟨left, call, mirrored⟩ := mirrors.disconnect client
      simp only [Registry.perform, call]
      exact ⟨rfl, mirrored⟩
  | switch client room =>
      obtain ⟨moved, call, mirrored⟩ := mirrors.switch client room
      simp only [Registry.perform, call]
      refine ⟨?_, mirrored⟩
      simp only [Roster.answer, Roster.after, Roster.handleOf?,
        Std.ExtTreeMap.mem_iff_isSome_getElem?]
      cases roster[client]? <;> simp
  | deliver room payload queues => exact mirrors.deliver_unshared unshared room payload queues

/-- What detaching a client finds: its handle, and nothing only for a client that is nowhere. -/
theorem handle_detach (mirrors : registry.Mirrors roster) (client : ClientId) :
    (registry.detach client).1.map Prod.fst = roster.handleOf? client := by
  obtain ⟨left, call, -⟩ := mirrors.detach client
  rw [call, Roster.handleOf?, Option.map_map]
  rfl

/-- Runs of the registry and of the roster agree from any pair of states that agree, if every handle
    given away during the run has a queue of its own. -/
theorem trace_agrees (mirrors : registry.Mirrors roster) (unshared : roster.Unshared)
    {calls : List RegistryCall} (owned : ((calls.filterMap RegistryCall.given?).map Handle.queue).Nodup)
    (apart : ∀ given ∈ calls.filterMap RegistryCall.given?, ∀ client handle,
      roster.handleOf? client = some handle → handle.queue ≠ given.queue) :
    List.Forall₂ (fun ours theirs => ours.1 = theirs.1 ∧ ours.2.Mirrors theirs.2)
      (registry.trace calls) (roster.trace calls) := by
  induction calls generalizing registry roster with
  | nil => exact .nil
  | cons call calls ih =>
      obtain ⟨answered, mirrored⟩ := mirrors.perform unshared call
      have new : ∀ given, call.given? = some given → ∀ client handle,
          roster.handleOf? client = some handle → handle.queue ≠ given.queue := by
        intro given gives
        exact apart given (List.mem_filterMap.mpr ⟨call, List.mem_cons_self, gives⟩)
      refine .cons ⟨answered, mirrored⟩
        (ih mirrored (mirrors.unshared_after unshared call new) ?_ ?_)
      · refine owned.sublist (List.Sublist.map _ ?_)
        exact (List.sublist_cons_self call calls).filterMap _
      · intro given member client handle kept
        have later : given ∈ (call :: calls).filterMap RegistryCall.given? := by
          obtain ⟨other, member, gives⟩ := List.mem_filterMap.mp member
          exact List.mem_filterMap.mpr ⟨other, List.mem_cons_of_mem _ member, gives⟩
        rcases mirrors.handleOf?_after call kept with old | ⟨gives, -⟩
        · exact apart given later client handle old
        · intro same
          rw [List.filterMap_cons, gives, List.map_cons, List.nodup_cons] at owned
          exact owned.1 (same ▸ List.mem_map_of_mem member)

end Registry.Mirrors

/-- Every run of the registry from its empty state is a run of the roster: the two maps are the
    image of the roster at every point, and of nothing else, every answer is the roster's, and a
    registered client is always found with its handle. -/
theorem registry_runs_as_roster (calls : List RegistryCall)
    (owned : ((calls.filterMap RegistryCall.given?).map Handle.queue).Nodup) :
    Registry.Mirrors {} ∅ ∧
    List.Forall₂
      (fun (answer, registry) (answer', roster) =>
        answer = answer' ∧ registry.Mirrors roster ∧
        (∀ other : Registry, other.Mirrors roster → other = registry) ∧
        ∀ client, (registry.detach client).1.map Prod.fst = roster.handleOf? client)
      (Registry.trace {} calls) (Roster.trace ∅ calls) := by
  refine ⟨.empty, (Registry.Mirrors.empty.trace_agrees ?_ owned ?_).imp ?_⟩
  · simp [Roster.Unshared, Roster.handleOf?]
  · simp [Roster.handleOf?]
  · rintro ⟨answer, registry⟩ ⟨answer', roster⟩ ⟨same, mirrors⟩
    exact ⟨same, mirrors, fun other image => image.unique mirrors, mirrors.handle_detach⟩

/-- A client comes twice under one identity, a second one is full when its room is delivered to, and
    the room closes. -/
theorem registry_runs_as_roster_eviction :
    let full : Queues := (∅ : Queues).insert 2 { bound := 1, backlog := [[0]] }
    let calls : List RegistryCall :=
      [.join "a" ⟨1, 1⟩, .join "b" ⟨1, 3⟩, .join "a" ⟨2, 2⟩, .deliver "a" [7] full,
        .switch 1 "b", .leave "a" 1, .disconnect 1]
    ((calls.filterMap RegistryCall.given?).map Handle.queue).Nodup ∧
    (Registry.trace {} calls).map Prod.fst =
      [.joined { created := true, added := true },
        .joined { created := true, added := true, movedFrom := some ⟨1, "a", true⟩ },
        .joined { created := true, added := true },
        .delivered { evicted := [2], roomClosed := true },
        .switched (some {}), .departed none, .departed (some ⟨1, "b", true⟩)] := by
  intro full calls
  have owned : ((calls.filterMap RegistryCall.given?).map Handle.queue).Nodup := by decide
  have agree := (registry_runs_as_roster calls owned).2
  refine ⟨owned, ?_⟩
  have answers : (Registry.trace {} calls).map Prod.fst = (Roster.trace ∅ calls).map Prod.fst := by
    rw [← List.forall₂_eq_eq_eq, List.forall₂_map_left_iff, List.forall₂_map_right_iff]
    exact agree.imp fun _ _ same => same.1
  rw [answers]
  decide

end ChatRelay
