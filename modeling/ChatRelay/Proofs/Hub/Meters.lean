import ChatRelay.Metrics.Registry
import ChatRelay.Proofs.Hub.Broadcasts
import Mathlib

/-! # Two sets of counters

A hub counts for itself, and what it reports is counted in the metrics. Both come to the same.
-/

namespace ChatRelay

theorem perm_toList_erase {α β : Type} [Ord α] [Std.TransOrd α] [Std.LawfulEqOrd α]
    {map : Std.ExtTreeMap α β} {key : α} {value : β} (found : map[key]? = some value) :
    map.toList.Perm ((key, value) :: (map.erase key).toList) := by
  have nodup (map : Std.ExtTreeMap α β) : map.toList.Nodup :=
    Std.ExtTreeMap.distinct_keys_toList.imp fun apart same => apart (by simp [same])
  refine (List.perm_ext_iff_of_nodup (nodup map) (List.nodup_cons.mpr ⟨?_, nodup _⟩)).mpr ?_
  · simp
  · rintro ⟨other, value'⟩
    simp only [List.mem_cons, Std.ExtTreeMap.mem_toList_iff_getElem?_eq_some,
      Std.ExtTreeMap.getElem?_erase, Std.LawfulEqCmp.compare_eq_iff_eq]
    grind

namespace Labelled

/-- The value for a label; nothing was counted for one that has not occurred. -/
def value (values : Labelled Nat) (label : String) : Nat := ((values[label]?).map Prod.snd).getD 0

/-- All values together. -/
def total (values : Labelled Nat) : Nat := (values.toList.map fun entry => entry.2.2).sum

/-- Every value is kept under its one label. -/
def Single (values : Labelled Nat) : Prop :=
  ∀ (key : String) (labels : List String) (value : Nat),
    values[key]? = some (labels, value) → labels = [key]

variable {values : Labelled Nat} (label : String)

theorem join_single : String.join [label] = label := by
  simp [String.join]

theorem change_eq (single : values.Single) :
    values.change [label] 0 (· + 1) = values.insert label ([label], values.value label + 1) := by
  simp only [change, value, join_single]
  cases found : values[label]? with
  | none => simp
  | some entry =>
      obtain ⟨labels, value⟩ := entry
      obtain rfl := single label labels value found
      simp

theorem single_count (single : values.Single) : (values.change [label] 0 (· + 1)).Single := by
  intro key labels value found
  rw [change_eq label single, Std.ExtTreeMap.getElem?_insert] at found
  simp only [Std.LawfulEqCmp.compare_eq_iff_eq] at found
  split at found
  · next same =>
      cases found
      rw [same]
  · exact single key labels value found

theorem value_count (single : values.Single) (other : String) :
    (values.change [label] 0 (· + 1)).value other =
      values.value other + if label = other then 1 else 0 := by
  rw [change_eq label single, value, Std.ExtTreeMap.getElem?_insert]
  simp only [Std.LawfulEqCmp.compare_eq_iff_eq]
  by_cases same : label = other
  · simp [same]
  · simp [same, value]

theorem total_count (single : values.Single) :
    (values.change [label] 0 (· + 1)).total = values.total + 1 := by
  rw [change_eq label single]
  have stored : (values.insert label ([label], values.value label + 1))[label]? =
      some ([label], values.value label + 1) := by simp
  have others : (values.insert label ([label], values.value label + 1)).erase label =
      values.erase label := by
    apply Std.ExtTreeMap.ext_getElem?
    intro key
    simp only [Std.ExtTreeMap.getElem?_erase, Std.ExtTreeMap.getElem?_insert]
    grind
  have after := ((perm_toList_erase stored).map fun entry => entry.2.2).sum_nat
  rw [others, List.map_cons, List.sum_cons] at after
  have before : values.total =
      values.value label + ((values.erase label).toList.map fun entry => entry.2.2).sum := by
    cases found : values[label]? with
    | none =>
        have same : values.erase label = values := by
          apply Std.ExtTreeMap.ext_getElem?
          intro key
          simp only [Std.ExtTreeMap.getElem?_erase, Std.LawfulEqCmp.compare_eq_iff_eq]
          grind
        rw [same, value, found]
        exact (Nat.zero_add _).symm
    | some entry =>
        have parts := ((perm_toList_erase found).map fun entry => entry.2.2).sum_nat
        rw [List.map_cons, List.sum_cons] at parts
        rw [total, parts, value, found]
        rfl
  rw [total, after, before]
  exact Nat.add_right_comm ..

end Labelled

namespace Metrics

/-- The metrics of a hub say the same as its own counters. -/
structure Follows (metrics : Metrics) (stats : HubStats) : Prop where
  single : metrics.broadcasts.Single
  broadcasts : metrics.broadcasts.total = stats.broadcasts
  remoteBroadcasts : metrics.remoteBroadcasts = stats.remoteBroadcasts
  deliveries : metrics.deliveries = stats.deliveries
  evictions : metrics.evictions = stats.evictions
  fanoutEnqueued : metrics.fanoutEnqueued = stats.published
  fanoutRejected : metrics.fanoutRejected = stats.unpublished
  roomsActive : metrics.roomsActive = stats.rooms

variable {metrics : Metrics}

theorem follows_start : ({} : Metrics).Follows {} := by
  refine ⟨?_, rfl, rfl, rfl, rfl, rfl, rfl, rfl⟩
  intro key labels value found
  simp at found

theorem foldl_note_silent {events : List Event} (silent : ∀ event ∈ events, ∀ metrics : Metrics,
    metrics.note event = metrics) : events.foldl note metrics = metrics := by
  induction events with
  | nil => rfl
  | cons event events ih =>
      rw [List.foldl_cons, silent event List.mem_cons_self]
      exact ih fun event listed => silent event (List.mem_cons_of_mem _ listed)

/-- The reports of a step that are counted. -/
theorem foldl_note_process (fanout : Option Bool) (command : Command) (hub : Hub) (queues : Queues) :
    (hub.process fanout command queues).events.foldl note metrics =
      match command with
      | .broadcast envelope =>
          (Hub.publish fanout envelope {}).2.foldl note (metrics.note (.delivered envelope
            (hub.registry.deliver envelope.room envelope.payload queues).1))
      | _ => metrics := by
  have departed (departure : Option Departure) :
      ∀ event ∈ Hub.departed departure, ∀ metrics : Metrics, metrics.note event = metrics := by
    cases departure <;> simp [Hub.departed, note]
  have arrived (room : String) (outcome : JoinOutcome) :
      ∀ event ∈ Hub.arrived room outcome, ∀ metrics : Metrics, metrics.note event = metrics := by
    intro event listed
    rcases List.mem_append.mp listed with listed | listed
    · exact departed _ event listed
    · split at listed
      · cases List.mem_singleton.mp listed
        exact fun _ => rfl
      · cases listed
  cases command with
  | join room handle => exact foldl_note_silent (arrived room _)
  | leave room client => exact foldl_note_silent (departed _)
  | switch client room =>
      simp only [Hub.process, Hub.handle]
      split
      · exact foldl_note_silent (arrived room _)
      · rfl
  | disconnect client => exact foldl_note_silent (departed _)
  | broadcast envelope =>
      have removals (removed : List ClientId) (metrics : Metrics) :
          (removed.map fun _ => Event.recorded (.left envelope.room)).foldl note metrics =
            metrics :=
        foldl_note_silent (by simp [note])
      simp only [Hub.process, Hub.handle, Hub.broadcast, Hub.publish_snd, List.cons_append,
        List.foldl_cons, List.foldl_append, removals]
  | snapshot ticket => rfl

/-- A step is counted in the same way by the hub and by the metrics. -/
theorem Follows.noteStep {hub : Hub} (follows : metrics.Follows hub.stats) (fanout : Option Bool)
    (command : Command) (queues : Queues) :
    (metrics.noteStep (hub.process fanout command queues).events
        (hub.process fanout command queues).hub.registry.roomCount).Follows
      (hub.process fanout command queues).hub.stats := by
  obtain ⟨single, broadcasts, remote, deliveries, evictions, enqueued, rejected, -⟩ := follows
  rw [Metrics.noteStep, foldl_note_process, Hub.stats_process]
  cases command with
  | broadcast envelope =>
      have one := Labelled.single_count envelope.room single
      have all := Labelled.total_count envelope.room single
      rw [broadcasts] at all
      simp only [Hub.publish_snd, Envelope.outgoing]
      cases mark : envelope.isLocal with
      | false => cases fanout <;> constructor <;> simp [note, *]
      | true => rcases fanout with - | - | - <;> constructor <;> simp [note, *]
  | _ => exact ⟨single, broadcasts, remote, deliveries, evictions, enqueued, rejected, rfl⟩

/-- Every broadcast is counted for its room. -/
theorem value_noteStep (single : metrics.broadcasts.Single) (fanout : Option Bool)
    (command : Command) (hub : Hub) (queues : Queues) (rooms : Nat) (room : String) :
    (metrics.noteStep (hub.process fanout command queues).events rooms).broadcasts.value room =
      metrics.broadcasts.value room +
        match command with
        | .broadcast envelope => if envelope.room = room then 1 else 0
        | _ => 0 := by
  rw [noteStep, foldl_note_process]
  cases command with
  | broadcast envelope =>
      simp only [Hub.publish_snd, Envelope.outgoing]
      have one := Labelled.value_count envelope.room single room
      rcases fanout with - | - | - <;> cases envelope.isLocal <;> simp [note, one]
  | _ => rfl

end Metrics
end ChatRelay
