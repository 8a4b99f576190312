import ChatRelay.Proofs.Hub.OneOrder

/-! # What reaches the fanout

A hub does not remember which operation a broadcast came through. It hands a broadcast to the fanout
if the envelope is marked as one of its own instance, so what was to be delivered only here is kept
from the fanout by the mark that its sender put on it, and by nothing else.
-/

namespace ChatRelay

namespace Operation

/-- What is submitted to be delivered here and shared with other instances. -/
def submitted? : Operation → Option (String × Bytes)
  | .broadcast room payload => some (room, payload)
  | _ => none

/-- What is to be delivered only here. -/
def relayed? : Operation → Option Envelope
  | .deliverRemote envelope => some envelope
  | _ => none

/-- What is handed to the fanout. -/
def shared? : Operation → Option (String × Bytes)
  | .broadcast room payload => some (room, payload)
  | .deliverRemote envelope =>
      if envelope.isLocal then some (envelope.room, envelope.payload) else none
  | _ => none

theorem shared?_eq_submitted? {operation : Operation}
    (foreign : ∀ envelope, operation.relayed? = some envelope → envelope.isLocal = false) :
    operation.shared? = operation.submitted? := by
  cases operation with
  | deliverRemote envelope => exact if_neg (by simp [foreign envelope rfl])
  | _ => rfl

end Operation

/-- What a fanout is handed in a step. -/
theorem Call.offers_process (call : Call) (accepts : Bool) (hub : Hub) (queues : Queues) :
    ((hub.process (some accepts) call.command queues).events.filterMap Event.offered?).map
        (fun offer => (offer.1.room, offer.1.payload)) = call.operation.shared?.toList := by
  obtain ⟨caller, ticket, operation⟩ := call
  rw [Hub.filterMap_offered]
  cases operation with
  | deliverRemote envelope =>
      obtain ⟨room, payload, origin⟩ := envelope
      cases origin <;> rfl
  | _ => rfl

/-- A broadcast counts as a remote one unless it is marked as one of this instance. -/
theorem Call.remoteBroadcasts_process (call : Call) (fanout : Option Bool) (hub : Hub)
    (queues : Queues) :
    (hub.process fanout call.command queues).hub.stats.remoteBroadcasts =
      hub.stats.remoteBroadcasts + (call.operation.relayed?.toList.filter (!·.isLocal)).length := by
  obtain ⟨caller, ticket, operation⟩ := call
  rw [Hub.stats_process]
  cases operation with
  | deliverRemote envelope =>
      simp only [command, Operation.relayed?, Option.toList_some]
      cases mark : envelope.isLocal <;> simp [mark]
  | broadcast room payload => rfl
  | _ => rfl

namespace Reception

/-- What the fanout was handed, in that order. -/
def offers (log : List ReceptionMark) : List (String × Bytes) :=
  ((reports log).filterMap Event.offered?).map fun offer => (offer.1.room, offer.1.payload)

/-- The operations whose requests were processed, in that order. -/
def operations (log : List ReceptionMark) : List Operation := (handled log).map Call.operation

theorem offers_append (log later : List ReceptionMark) :
    offers (log ++ later) = offers log ++ offers later := by
  simp [offers]

theorem operations_append (log later : List ReceptionMark) :
    operations (log ++ later) = operations log ++ operations later := by
  simp [operations]

/-- The fanout was handed what the processed operations share, and the hub counts those of other
    instances. -/
structure Sharing (log : List ReceptionMark) (reception : Reception) : Prop where
  attached : reception.attached = true
  each : ∀ call fanout events, ReceptionMark.handled call fanout events ∈ log →
    (events.filterMap Event.offered?).map (fun offer => (offer.1.room, offer.1.payload)) =
      call.operation.shared?.toList
  offered : offers log = (operations log).filterMap Operation.shared?
  counted : reception.loop.hub.stats.remoteBroadcasts =
    (((operations log).filterMap Operation.relayed?).filter (!·.isLocal)).length

namespace Sharing

variable {log marks : List ReceptionMark} {reception next : Reception}

theorem quiet (sharing : Sharing log reception) (unhandled : handled marks = [])
    (unreported : reports marks = []) (attached : next.attached = reception.attached)
    (stats : next.loop.hub.stats = reception.loop.hub.stats) : Sharing (log ++ marks) next := by
  have none : operations marks = [] := by rw [operations, unhandled, List.map_nil]
  constructor
  case attached => rw [attached, sharing.attached]
  case each =>
    intro call fanout events listed
    rcases List.mem_append.mp listed with listed | listed
    · exact sharing.each call fanout events listed
    · have listed : call ∈ handled marks := List.mem_filterMap.mpr ⟨_, listed, rfl⟩
      simp [unhandled] at listed
  case offered =>
    rw [offers_append, operations_append, none, offers, offers, unreported, ← offers,
      sharing.offered]
    simp
  case counted => rw [stats, sharing.counted, operations_append, none, List.append_nil]

theorem moved (sharing : Sharing log reception) (moved : reception.Moved marks next) :
    Sharing (log ++ marks) next := by
  cases moved with
  | idle | counted | changed | acquired | released | called | left | heard | accepted | finished
  | stopped => exact sharing.quiet rfl rfl rfl rfl
  | failed found kind => rcases kind with rfl | rfl <;> exact sharing.quiet rfl rfl rfl rfl
  | @handled call line accepts step running next seen processed =>
      have fanout : reception.fanout accepts = some accepts := if_pos sharing.attached
      rw [fanout] at processed ⊢
      have here : (step.events.filterMap Event.offered?).map
          (fun offer => (offer.1.room, offer.1.payload)) = call.operation.shared?.toList := by
        rw [processed, call.offers_process]
      have one : operations [.handled call (some accepts) step.events] = [call.operation] := rfl
      constructor
      case attached => exact sharing.attached
      case each =>
        intro call' fanout events listed
        rcases List.mem_append.mp listed with listed | listed
        · exact sharing.each call' fanout events listed
        · cases List.mem_singleton.mp listed
          exact here
      case offered =>
        rw [offers_append, operations_append, List.filterMap_append, sharing.offered, one,
          filterMap_cons_toList, ← here]
        simp [offers]
      case counted =>
        rw [operations_append, List.filterMap_append, one, filterMap_cons_toList]
        simp [processed, call.remoteBroadcasts_process, sharing.counted]

end Sharing

/-- The fanout is handed the processed broadcasts that are marked as those of this instance, in
    their order: all that were submitted to be shared, and besides only what was to be delivered
    here and is wrongly marked. All others that were to be delivered here are counted as remote
    ones. -/
theorem the_mark_decides_what_is_shared (capacity : Nat) (moves : List ReceptionMove) :
    let (log, reception) := play step (start capacity true) moves
    let relayed := (operations log).filterMap Operation.relayed?
    let stats := reception.loop.hub.stats
    offers log = (operations log).filterMap Operation.shared? ∧
      stats.remoteBroadcasts = (relayed.filter (!·.isLocal)).length ∧
      (∀ call fanout events envelope, ReceptionMark.handled call fanout events ∈ log →
        call.operation = .deliverRemote envelope →
        (events.filterMap Event.offered? = [] ↔ envelope.isLocal = false)) ∧
      ((∀ envelope ∈ relayed, envelope.isLocal = false) →
        offers log = (operations log).filterMap Operation.submitted? ∧
          stats.remoteBroadcasts = relayed.length) := by
  have keeps (log : List ReceptionMark) (reception : Reception) (move : ReceptionMove)
      (before : Sound capacity log reception ∧ Sharing log reception) :
      Sound capacity (log ++ (reception.step move).1) (reception.step move).2 ∧
        Sharing (log ++ (reception.step move).1) (reception.step move).2 :=
    ⟨before.1.step move, before.2.moved (moved before.1.kept.pending move)⟩
  have run := play_induction keeps ⟨.start capacity true, rfl, nofun, rfl, rfl⟩ moves
  generalize play step (start capacity true) moves = result at run ⊢
  obtain ⟨log, reception⟩ := result
  obtain ⟨-, sharing⟩ := run
  refine ⟨sharing.offered, sharing.counted, ?_, fun foreign => ⟨?_, ?_⟩⟩
  · intro call fanout events envelope listed operation
    have here := sharing.each call fanout events listed
    rw [← List.map_eq_nil_iff, here, operation, Operation.shared?]
    cases envelope.isLocal <;> simp
  · rw [sharing.offered]
    refine List.filterMap_congr fun operation listed => ?_
    exact Operation.shared?_eq_submitted? fun envelope relayed =>
      foreign envelope (List.mem_filterMap.mpr ⟨operation, listed, relayed⟩)
  · rw [sharing.counted, List.filter_eq_self.mpr fun envelope listed => by simp [foreign envelope listed]]

/-- An envelope that was to be delivered only here, but is marked as one of this instance, is shared
    and does not count as a remote one. -/
theorem shared_when_wrongly_marked :
    let envelope : Envelope := { room := "a", payload := [7], origin := .here }
    let moves : List ReceptionMove := [.call 0 (.deliverRemote envelope), .submit 0, .take true]
    let (log, reception) := play step (start 1 true) moves
    operations log = [.deliverRemote envelope] ∧ offers log = [("a", [7])] ∧
      (operations log).filterMap Operation.submitted? = [] ∧
      reception.loop.hub.stats.remoteBroadcasts = 0 := by
  decide +kernel

end Reception
end ChatRelay
