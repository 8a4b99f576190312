import ChatRelay.Presence.Worker
import ChatRelay.Proofs.Text.RoundTrip
import Mathlib.Data.List.Forall2
import Mathlib.Data.List.Nodup
import Mathlib.Data.Set.List

/-! # Reading presence from Redis

A survey is answered with the rooms and with the counters, each in an order of Redis's own. What a
reader makes of the answers does not depend on that order: rooms are sorted, and a counter is found
by its name.
-/

namespace ChatRelay

/-- The replies that Redis may give to commands: each lists what there is in some order. -/
def Redis.Store.Answers (store : Store) (commands : List Command) (replies : List Reply) : Prop :=
  List.Forall₂ Reply.Reordered (store.runAll commands).1 replies

instance (store : Redis.Store) (commands : List Redis.Command) (replies : List Redis.Reply) :
    Decidable (store.Answers commands replies) :=
  inferInstanceAs (Decidable (List.Forall₂ ..))

namespace Redis

theorem Reply.reordered_elements {all : List Bytes} {reply : Reply} :
    (Reply.elements all).Reordered reply ↔
      ∃ others, reply = .elements others ∧ all.Perm others := by
  cases reply <;> simp [Reordered]

theorem Reply.reordered_fields {all : List (Bytes × Bytes)} {reply : Reply} :
    (Reply.fields all).Reordered reply ↔ ∃ others, reply = .fields others ∧ all.Perm others := by
  cases reply <;> simp [Reordered]

/-- A survey is answered with the rooms and the counters that there are. -/
theorem Store.answers_survey {store : Store} {keys : PresenceKeys} {replies : List Reply} :
    store.Answers keys.survey replies ↔
      ∃ rooms fields, replies = [.elements rooms, .fields fields] ∧
        (store.set keys.rooms).toList.Perm rooms ∧
        (store.hash keys.members).toList.Perm fields := by
  simp only [Answers, PresenceKeys.survey, runAll, run, List.forall₂_cons_left_iff,
    List.forall₂_nil_left_iff, Reply.reordered_elements, Reply.reordered_fields]
  constructor
  · rintro ⟨_, _, ⟨rooms, rfl, listed⟩, ⟨_, _, ⟨fields, rfl, held⟩, rfl, rfl⟩, rfl⟩
    exact ⟨rooms, fields, rfl, listed, held⟩
  · rintro ⟨rooms, fields, rfl, listed, held⟩
    exact ⟨_, _, ⟨rooms, rfl, listed⟩, ⟨_, _, ⟨fields, rfl, held⟩, rfl, rfl⟩, rfl⟩

end Redis

section Names

variable {names : List String}

theorem sortNames_perm (names : List String) : (sortNames names).Perm names :=
  List.mergeSort_perm ..

theorem mem_sortNames {name : String} : name ∈ sortNames names ↔ name ∈ names :=
  (sortNames_perm names).mem_iff

theorem sortNames_pairwise (names : List String) :
    (sortNames names).Pairwise fun a b => (compare a b).isLE = true := by
  apply List.pairwise_mergeSort
  · intro a b c first second
    exact Std.TransCmp.isLE_trans first second
  · intro a b
    rw [Std.OrientedOrd.eq_swap (a := b)]
    cases compare a b <;> rfl

/-- Names of which none repeats ascend strictly once they are sorted. -/
theorem sortNames_ascending (distinct : names.Nodup) :
    (sortNames names).Pairwise fun a b => compare a b = .lt := by
  have apart : (sortNames names).Nodup := (sortNames_perm names).nodup_iff.mpr distinct
  apply (sortNames_pairwise names).imp₂ _ apart
  intro a b before other
  cases order : compare a b with
  | lt => rfl
  | eq => exact absurd (Std.LawfulEqCmp.eq_of_compare order) other
  | gt => simp [order] at before

/-- A set of names is listed as names of which none repeats. -/
theorem exists_names {set : Std.ExtTreeSet Bytes} {listed : List Bytes}
    (names : ∀ element ∈ set, ∃ name, element = Utf8.ofString name)
    (same : set.toList.Perm listed) :
    ∃ names : List String, listed = names.map Utf8.ofString ∧ names.Nodup ∧
      ∀ name, name ∈ names ↔ Utf8.ofString name ∈ set := by
  have mem {element : Bytes} : element ∈ listed ↔ element ∈ set :=
    same.mem_iff.symm.trans Std.ExtTreeSet.mem_toList
  have distinct : listed.Nodup := by
    apply same.nodup_iff.mp
    apply Std.ExtTreeSet.distinct_toList.imp
    intro a b other equal
    exact other (equal ▸ Std.ReflCmp.compare_self)
  obtain ⟨names, rfl⟩ : ∃ names : List String, names.map Utf8.ofString = listed := by
    apply (Set.ext_iff.mp (Set.range_list_map Utf8.ofString) listed).mpr
    intro element there
    obtain ⟨name, rfl⟩ := names element (mem.mp there)
    exact ⟨name, rfl⟩
  refine ⟨names, rfl, List.Nodup.of_map _ distinct, fun name => ?_⟩
  rw [← mem, List.mem_map_of_injective fun _ _ => Utf8.ofString_injective]

end Names

/-- Fields that were written as counts are read as these counts. -/
theorem readCounts?_eq_some {fields : List (Bytes × Bytes)}
    (legible : ∀ entry ∈ fields, ∃ room n, entry = (Utf8.ofString room, Redis.ofInteger n) ∧
      Text.isWord n = true) :
    ∃ counts, readCounts? fields = some counts ∧
      fields = counts.map fun entry => (Utf8.ofString entry.1, Redis.ofInteger entry.2) := by
  induction fields with
  | nil => exact ⟨[], rfl, rfl⟩
  | cons entry fields ih =>
      obtain ⟨room, n, rfl, word⟩ := legible entry List.mem_cons_self
      obtain ⟨counts, read, rfl⟩ := ih fun other there =>
        legible other (List.mem_cons_of_mem _ there)
      refine ⟨(room, n) :: counts, ?_, rfl⟩
      simp [readCounts?, read, Utf8.toString?_ofString, Redis.integer?_ofInteger word]

/-- Counts of which no two have one name are found by their names. -/
theorem getElem?_ofList {counts : List (String × Int)}
    (distinct : counts.Pairwise fun a b => a.1 ≠ b.1) (room : String) (n : Int) :
    (Std.ExtTreeMap.ofList counts compare)[room]? = some n ↔ (room, n) ∈ counts := by
  have found {n : Int} (there : (room, n) ∈ counts) :
      (Std.ExtTreeMap.ofList counts compare)[room]? = some n := by
    apply Std.ExtTreeMap.getElem?_ofList_of_mem Std.ReflCmp.compare_self _ there
    exact distinct.imp fun apart equal => apart (Std.LawfulEqCmp.eq_of_compare equal)
  refine ⟨fun held => ?_, found⟩
  by_cases known : room ∈ counts.map Prod.fst
  · obtain ⟨⟨_, m⟩, there, rfl⟩ := List.mem_map.mp known
    rw [found there, Option.some.injEq] at held
    rwa [← held]
  · rw [Std.ExtTreeMap.getElem?_ofList_of_contains_eq_false (by simpa using known)] at held
    exact nomatch held

/-- A reader has an answer: the rooms that it was told of by their names, each with its counter. -/
theorem readSurvey?_eq_some {hash : Std.ExtTreeMap Bytes Bytes} {count : String → Option Int}
    (tally : ∀ room, hash[Utf8.ofString room]? = (count room).map Redis.ofInteger)
    (names : ∀ field ∈ hash, ∃ room, field = Utf8.ofString room)
    (words : ∀ room n, count room = some n → Text.isWord n = true) (rooms : List String)
    {fields : List (Bytes × Bytes)} (listed : hash.toList.Perm fields) :
    readSurvey? [.elements (rooms.map Utf8.ofString), .fields fields] =
      some ((sortNames rooms).map fun room => ⟨room, (count room).getD 0⟩) := by
  have held {field value : Bytes} : (field, value) ∈ fields ↔ hash[field]? = some value :=
    listed.mem_iff.symm.trans Std.ExtTreeMap.mem_toList_iff_getElem?_eq_some
  have legible : ∀ entry ∈ fields, ∃ room n,
      entry = (Utf8.ofString room, Redis.ofInteger n) ∧ Text.isWord n = true := by
    rintro ⟨field, value⟩ there
    obtain ⟨room, rfl⟩ := names field (Std.ExtTreeMap.mem_iff_isSome_getElem?.mpr (by
      rw [held.mp there]
      rfl))
    obtain ⟨n, counted, rfl⟩ := Option.map_eq_some_iff.mp ((tally room).symm.trans (held.mp there))
    exact ⟨room, n, rfl, words room n counted⟩
  obtain ⟨counts, read, rfl⟩ := readCounts?_eq_some legible
  have distinct : counts.Pairwise fun a b => a.1 ≠ b.1 := by
    have apart := Std.ExtTreeMap.distinct_keys_toList.perm listed
      fun other equal => other (Std.OrientedCmp.eq_symm equal)
    apply (List.pairwise_map.mp apart).imp
    intro a b other same
    apply other
    rw [same]
    exact Std.ReflCmp.compare_self
  have counted (room : String) : (Std.ExtTreeMap.ofList counts compare)[room]? = count room := by
    apply Option.ext
    intro n
    have written : Function.Injective fun entry : String × Int =>
        (Utf8.ofString entry.1, Redis.ofInteger entry.2) :=
      fun a b same => Prod.ext (Utf8.ofString_injective (congrArg Prod.fst same))
        (Redis.ofInteger_injective (congrArg Prod.snd same))
    rw [getElem?_ofList distinct, ← List.mem_map_of_injective written, held, tally,
      Option.map_eq_some_iff]
    simp [Redis.ofInteger_injective.eq_iff]
  simp only [readSurvey?, read, Utf8.mapM_toString?, counted, Option.bind_eq_bind,
    Option.bind_some, Option.pure_def]

end ChatRelay
