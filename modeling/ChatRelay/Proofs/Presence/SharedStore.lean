import ChatRelay.Proofs.Presence.Records

/-! # Presence that instances share in Redis

A departure is two exchanges: the worker counts it, and if that leaves nobody it removes the room.
An arrival that gets in between is removed with the room and is lost. Where that does not happen,
Redis holds what a ledger holds that records the changes as they are counted.
-/

namespace ChatRelay

/-- In no prefix of the changes has a room had more departures than arrivals. -/
def PresenceChange.Paced (changes : List PresenceChange) : Prop :=
  ∀ earlier, earlier <+: changes → ∀ room, 0 ≤ net room earlier

namespace PresenceChange

theorem net_of_absent {room : String} {changes : List PresenceChange}
    (absent : ∀ change ∈ changes, change.room ≠ room) : net room changes = 0 := by
  induction changes with
  | nil => rfl
  | cons change changes ih =>
      have other := absent change List.mem_cons_self
      rw [net_cons, ih fun later there => absent later (List.mem_cons_of_mem _ there)]
      cases change <;> simp_all [weight, PresenceChange.room]

/-- It is enough to look at the rooms that occur. -/
theorem paced_iff (changes : List PresenceChange) :
    Paced changes ↔
      ∀ earlier ∈ changes.inits, ∀ change ∈ earlier, 0 ≤ net change.room earlier := by
  constructor
  · intro paced earlier before change _
    exact paced earlier ((List.mem_inits ..).mp before) change.room
  · intro each earlier before room
    by_cases occurs : ∃ change ∈ earlier, change.room = room
    · obtain ⟨change, there, rfl⟩ := occurs
      exact each earlier ((List.mem_inits ..).mpr before) change there
    · rw [net_of_absent fun change there same => occurs ⟨change, there, same⟩]

instance (changes : List PresenceChange) : Decidable (Paced changes) :=
  decidable_of_iff _ (paced_iff changes).symm

end PresenceChange

namespace StoreEvent

variable {parties : Nat}

/-- The change that the worker of an instance has taken. -/
def taken? (index : Fin parties) : StoreEvent parties → Option PresenceChange
  | .taken other change => if other = index then some change else none
  | _ => none

/-- The change of an instance that Redis has counted. -/
def counted? (index : Fin parties) : StoreEvent parties → Option PresenceChange
  | .counted other change => if other = index then some change else none
  | _ => none

/-- The change that Redis has counted. -/
def change? : StoreEvent parties → Option PresenceChange
  | .counted _ change => some change
  | _ => none

end StoreEvent

namespace SharedStore

variable {parties : Nat}

/-- The changes that an instance has taken, in their order. -/
def taken (index : Fin parties) (seen : List (StoreEvent parties)) : List PresenceChange :=
  seen.filterMap (StoreEvent.taken? index)

/-- The changes of an instance that were counted, in their order. -/
def counted (index : Fin parties) (seen : List (StoreEvent parties)) : List PresenceChange :=
  seen.filterMap (StoreEvent.counted? index)

/-- A ledger that has recorded all changes that were counted. -/
def ledger (seen : List (StoreEvent parties)) : PresenceLedger :=
  (seen.filterMap StoreEvent.change?).foldl .record {}

/-- Nobody is about to join a room that somebody is about to remove. -/
def Orderly (shared : SharedStore parties) : Prop :=
  ∀ index other, ∀ room ∈ (shared.party index).worker.phase.purged?,
    (shared.party other).worker.phase ≠ .applying (.joined room)

instance (shared : SharedStore parties) : Decidable shared.Orderly :=
  inferInstanceAs (Decidable (∀ _ _, ∀ _ ∈ _, _))

/-- No worker is busy with a room. -/
def Quiet (shared : SharedStore parties) (room : String) : Prop :=
  ∀ index, (shared.party index).worker.phase.room? ≠ some room

instance (shared : SharedStore parties) (room : String) : Decidable (shared.Quiet room) :=
  inferInstanceAs (Decidable (∀ _, _))

section Projections

variable (index : Fin parties) (seen new : List (StoreEvent parties)) (change : PresenceChange)

theorem taken_append : taken index (seen ++ new) = taken index seen ++ taken index new :=
  List.filterMap_append

theorem counted_append : counted index (seen ++ new) = counted index seen ++ counted index new :=
  List.filterMap_append

theorem ledger_append :
    ledger (seen ++ new) = (new.filterMap StoreEvent.change?).foldl .record (ledger seen) := by
  rw [ledger, List.filterMap_append, List.foldl_append]
  rfl

theorem ledger_counted : ledger (seen ++ [.counted index change]) = (ledger seen).record change :=
  ledger_append ..

theorem net_counted (room : String) : ∑ other, PresenceChange.net room
      (counted other (seen ++ [.counted index change])) =
    ∑ other, PresenceChange.net room (counted other seen) + change.weight room := by
  have each (other : Fin parties) : PresenceChange.net room
        (counted other (seen ++ [.counted index change])) =
      PresenceChange.net room (counted other seen) +
        if index = other then change.weight room else 0 := by
    rw [counted_append, PresenceChange.net_append]
    by_cases same : index = other <;> simp [counted, StoreEvent.counted?, same]
  simp only [each, Finset.sum_add_distrib, Finset.sum_ite_eq, Finset.mem_univ, if_true]

end Projections

/-- What a reader has under way: everything is still to be read, or only the counters. -/
def Reads (keys : PresenceKeys) (survey : Exchange) : Prop :=
  survey = { commands := keys.survey } ∨
    ∃ rooms : List String, rooms.Nodup ∧
      survey = ⟨[.hgetall keys.members], [.elements (rooms.map Utf8.ofString)]⟩

/-- What holds between any two moves. -/
structure Sound (keys : PresenceKeys) (seen : List (StoreEvent parties))
    (shared : SharedStore parties) (stage : Fin parties → PresenceStage) : Prop where
  staged : ∀ index, (shared.party index).At keys (stage index)
  taken : ∀ index, taken index seen =
    counted index seen ++ ((stage index).due ++ (shared.party index).worker.queue)
  ledger : (ledger seen).Sound
  sum : ∀ room, (SharedStore.ledger seen).total room =
    ∑ index, PresenceChange.net room (counted index seen)
  few : ∀ room, (SharedStore.ledger seen).total room ≤ seen.length
  records : shared.store.Records keys stage (SharedStore.ledger seen).total
  reads : ∀ index survey, (shared.party index).survey = some survey → Reads keys survey

namespace Sound

variable {keys : PresenceKeys} {seen : List (StoreEvent parties)} {shared : SharedStore parties}
  {stage : Fin parties → PresenceStage} {index : Fin parties}

theorem start (keys : PresenceKeys) (capacity : Fin parties → Nat) :
    Sound keys [] (.start capacity) fun _ => .idle where
  staged index := ⟨rfl, rfl, by simp⟩
  taken index := rfl
  ledger := .empty
  sum room := by simp [SharedStore.ledger, PresenceLedger.total, PresenceLedger.count?, counted]
  few room := by simp [SharedStore.ledger, PresenceLedger.total, PresenceLedger.count?]
  records := by
    have nothing : (SharedStore.ledger ([] : List (StoreEvent parties))).total = fun _ => 0 := by
      funext room
      simp [SharedStore.ledger, PresenceLedger.total, PresenceLedger.count?]
    rw [nothing]
    exact .start fun _ => rfl
  reads := by simp [SharedStore.start]

/-- Totals are words as long as little has happened. -/
theorem word (sound : Sound keys seen shared stage) (little : seen.length < 9223372036854775808)
    (room : String) : Text.isWord ((SharedStore.ledger seen).total room) = true :=
  Text.isWord_of_le (sound.ledger.total_nonneg room) (sound.few room) little

/-- What a worker has counted and is about to count is a part of what it has taken. -/
theorem net_nonneg (sound : Sound keys seen shared stage)
    (paced : PresenceChange.Paced (SharedStore.taken index seen)) (room : String) :
    0 ≤ PresenceChange.net room (counted index seen) ∧
      0 ≤ PresenceChange.net room (counted index seen ++ (stage index).due) := by
  rw [sound.taken index, ← List.append_assoc] at paced
  exact ⟨paced _ ((List.prefix_append ..).trans (List.prefix_append ..)) room,
    paced _ (List.prefix_append ..) room⟩

/-- Somebody is in a room that a worker is about to count a departure from. -/
theorem total_pos (sound : Sound keys seen shared stage)
    (paced : ∀ index, PresenceChange.Paced (SharedStore.taken index seen)) {room : String}
    (here : stage index = .leaving room) : 0 < (SharedStore.ledger seen).total room := by
  have own := (sound.net_nonneg (paced index) room).2
  rw [PresenceChange.net_append, here] at own
  simp only [PresenceStage.due, PresenceChange.net_cons, PresenceChange.net_nil,
    PresenceChange.weight, if_true] at own
  have all : PresenceChange.net room (counted index seen) ≤
      ∑ other, PresenceChange.net room (counted other seen) :=
    Finset.single_le_sum (f := fun other => PresenceChange.net room (counted other seen))
      (fun other _ => (sound.net_nonneg (paced other) room).1) (Finset.mem_univ index)
  rw [sound.sum]
  omega

theorem staged_update (sound : Sound keys seen shared stage) {party : PresenceParty}
    {place : PresenceStage} {store : Redis.Store} (at_place : party.At keys place)
    (other : Fin parties) : (({ shared with store }.update index party).party other).At keys
      (Function.update stage index place other) := by
  by_cases self : other = index
  · subst self
    simpa [update] using at_place
  · simpa [update, self] using sound.staged other

theorem reads_update (sound : Sound keys seen shared stage) {party : PresenceParty}
    {store : Redis.Store} (reads : ∀ survey, party.survey = some survey → Reads keys survey)
    (other : Fin parties) (survey : Exchange)
    (asked : (({ shared with store }.update index party).party other).survey = some survey) :
    Reads keys survey := by
  by_cases self : other = index
  · subst self
    simp only [update, Function.update_self] at asked
    exact reads survey asked
  · simp only [update, Function.update_of_ne self] at asked
    exact sound.reads other survey asked

/-- A move of one party by which nothing is counted. -/
theorem uncounted (sound : Sound keys seen shared stage) {party : PresenceParty}
    {place : PresenceStage} {store : Redis.Store} {new : List (StoreEvent parties)}
    (at_place : party.At keys place) (still : ∀ other, counted other new = [])
    (same : new.filterMap StoreEvent.change? = [])
    (elsewhere : ∀ other, other ≠ index → SharedStore.taken other new = [])
    (queue : (stage index).due ++ (shared.party index).worker.queue ++ SharedStore.taken index new =
      place.due ++ party.worker.queue)
    (records : store.Records keys (Function.update stage index place)
      (SharedStore.ledger seen).total)
    (reads : ∀ survey, party.survey = some survey → Reads keys survey) :
    Sound keys (seen ++ new) ({ shared with store }.update index party)
      (Function.update stage index place) := by
  have ledger : SharedStore.ledger (seen ++ new) = SharedStore.ledger seen := by
    rw [ledger_append, same]
    rfl
  have counts (other : Fin parties) : counted other (seen ++ new) = counted other seen := by
    rw [counted_append, still, List.append_nil]
  constructor
  · exact sound.staged_update at_place
  · intro other
    rw [taken_append, counts, sound.taken]
    by_cases self : other = index
    · subst self
      simp only [update, Function.update_self, ← queue, List.append_assoc]
    · simp only [update, Function.update_of_ne self, elsewhere other self, List.append_nil]
  · rw [ledger]
    exact sound.ledger
  · simpa only [ledger, counts] using sound.sum
  · intro room
    have few := sound.few room
    rw [ledger, List.length_append]
    omega
  · rwa [ledger]
  · exact sound.reads_update reads

/-- A move of one party by which its change is counted. -/
theorem counting (sound : Sound keys seen shared stage) {party : PresenceParty}
    {place : PresenceStage} {store : Redis.Store} {change : PresenceChange}
    (at_place : party.At keys place) (due : (stage index).due = [change]) (done : place.due = [])
    (queue : party.worker.queue = (shared.party index).worker.queue)
    (survey : party.survey = (shared.party index).survey)
    (fits : 0 ≤ ((SharedStore.ledger seen).apply change).1)
    (records : store.Records keys (Function.update stage index place) fun room =>
      (SharedStore.ledger seen).total room + change.weight room) :
    Sound keys (seen ++ [.counted index change]) ({ shared with store }.update index party)
      (Function.update stage index place) := by
  have total (room : String) : (SharedStore.ledger (seen ++ [.counted index change])).total room =
      (SharedStore.ledger seen).total room + change.weight room := by
    rw [ledger_counted]
    exact sound.ledger.total_record change fits room
  constructor
  · exact sound.staged_update at_place
  · intro other
    have nothing : SharedStore.taken other [.counted index change] = [] := rfl
    rw [taken_append, counted_append, sound.taken, nothing, List.append_nil]
    by_cases self : other = index
    · subst self
      simp [update, due, done, queue, counted, StoreEvent.counted?]
    · simp [update, self, Ne.symm self, counted, StoreEvent.counted?]
  · rw [ledger_counted]
    exact sound.ledger.record change
  · intro room
    rw [total, net_counted, sound.sum]
  · intro room
    have few := sound.few room
    have one : change.weight room ≤ 1 := by
      cases change <;> simp only [PresenceChange.weight] <;> split <;> omega
    rw [total, List.length_append, List.length_singleton]
    omega
  · rwa [funext total]
  · exact sound.reads_update (survey ▸ sound.reads index)

theorem record (sound : Sound keys seen shared stage) (index : Fin parties)
    (change : PresenceChange) :
    ∃ stage, Sound keys (seen ++ (shared.step keys (.record index change)).1)
      (shared.step keys (.record index change)).2 stage := by
  obtain ⟨phase, commands, replies⟩ := sound.staged index
  refine ⟨Function.update stage index (stage index), ?_⟩
  have records : shared.store.Records keys (Function.update stage index (stage index))
      (SharedStore.ledger seen).total := by
    rw [Function.update_eq_self]
    exact sound.records
  by_cases room : ((shared.party index).worker.running &&
      (shared.party index).worker.queue.length < (shared.party index).worker.limit) = true
  · have longer : (shared.party index).worker.record change =
        { (shared.party index).worker with
          queue := (shared.party index).worker.queue ++ [change] } := if_pos room
    have changed : (shared.party index).worker.record change ≠ (shared.party index).worker := by
      rw [longer]
      intro same
      simpa using congrArg (fun worker => worker.queue.length) same
    simp only [SharedStore.step, if_neg changed]
    rw [longer]
    refine sound.uncounted ⟨phase, commands, replies⟩ (fun _ => rfl) rfl (fun other apart => ?_) ?_
      records (sound.reads index)
    · simp [SharedStore.taken, StoreEvent.taken?, Ne.symm apart]
    · simp [SharedStore.taken, StoreEvent.taken?]
  · have same : (shared.party index).worker.record change = (shared.party index).worker :=
      if_neg room
    simp only [SharedStore.step, same, if_true]
    exact sound.uncounted ⟨phase, commands, replies⟩ (fun _ => rfl) rfl (fun _ _ => rfl)
      (List.append_nil _) records (sound.reads index)

theorem begin (sound : Sound keys seen shared stage) (index : Fin parties) :
    ∃ stage, Sound keys (seen ++ (shared.step keys (.begin index)).1)
      (shared.step keys (.begin index)).2 stage := by
  obtain ⟨phase, commands, replies⟩ := sound.staged index
  by_cases free : (shared.party index).worker.phase = .idle
  · have idle : stage index = .idle := by
      rw [phase] at free
      cases place : stage index <;> rw [place] at free <;> cases free
    simp only [SharedStore.step, if_pos free]
    cases waiting : (shared.party index).worker.queue with
    | nil =>
        have same : (shared.party index).worker.begin = (shared.party index).worker := by
          simp only [PresenceWorker.begin, free, waiting]
        refine ⟨Function.update stage index .idle, sound.uncounted (.of_phase ?_ (by simp))
          (fun _ => rfl) rfl (fun _ _ => rfl) ?_ ?_ (sound.reads index)⟩
        · rw [same, free]
          rfl
        · rw [same, idle]
          exact List.append_nil _
        · rw [← idle, Function.update_eq_self]
          exact sound.records
    | cons change rest =>
        have begun : (shared.party index).worker.begin =
            { (shared.party index).worker with phase := .applying change, queue := rest } := by
          simp only [PresenceWorker.begin, free, waiting]
        refine ⟨Function.update stage index (.ofChange change), sound.uncounted (.of_phase ?_ ?_)
          (fun _ => rfl) rfl (fun _ _ => rfl) ?_ (sound.records.begin idle change)
          (sound.reads index)⟩
        · rw [begun]
          cases change <;> rfl
        · cases change <;> simp [PresenceStage.ofChange]
        · rw [begun, idle, waiting]
          cases change <;> exact List.append_nil _
  · simp only [SharedStore.step, if_neg free]
    exact ⟨stage, by simpa using sound⟩

theorem perform (sound : Sound keys seen shared stage)
    (little : seen.length + 1 < 9223372036854775808)
    (paced : ∀ index, PresenceChange.Paced (SharedStore.taken index seen))
    (orderly : shared.Orderly) (index : Fin parties) :
    ∃ stage, Sound keys (seen ++ (shared.step keys (.perform index)).1)
      (shared.step keys (.perform index)).2 stage := by
  have here := sound.staged index
  have word := sound.word (Nat.lt_of_succ_lt little)
  have floor := sound.ledger.total_nonneg
  cases place : stage index with
  | idle =>
      rw [place] at here
      rw [step_perform_idle here]
      exact ⟨stage, by simpa using sound⟩
  | joining room =>
      rw [place] at here
      obtain ⟨later, queue, survey⟩ := here.hear rfl
        (shared.store.run (.sadd keys.rooms (Utf8.ofString room))).1
      rw [step_perform here rfl]
      refine ⟨_, sound.uncounted later (fun _ => rfl) rfl (fun _ _ => rfl) ?_
        (sound.records.enter place) (survey ▸ sound.reads index)⟩
      rw [place, queue]
      exact List.append_nil _
  | removing room =>
      rw [place] at here
      obtain ⟨later, queue, survey⟩ := here.hear rfl
        (shared.store.run (.hdel keys.members (Utf8.ofString room))).1
      rw [step_perform here rfl]
      refine ⟨_, sound.uncounted later (fun _ => rfl) rfl (fun _ _ => rfl) ?_
        (sound.records.erase place) (survey ▸ sound.reads index)⟩
      rw [place, queue]
      exact List.append_nil _
  | erased room =>
      rw [place] at here
      -- here an arrival would be lost
      have alone : ¬PresenceStage.Reached stage (.entered room) := by
        rintro ⟨other, there⟩
        refine orderly index other room (by rw [here.phase]; rfl) ?_
        rw [(sound.staged other).phase, there]
        rfl
      obtain ⟨later, queue, survey⟩ := here.hear rfl
        (shared.store.run (.srem keys.rooms (Utf8.ofString room))).1
      rw [step_perform here rfl]
      refine ⟨_, sound.uncounted later (fun _ => rfl) rfl (fun _ _ => rfl) ?_
        (sound.records.remove place alone) (survey ▸ sound.reads index)⟩
      rw [place, queue]
      exact List.append_nil _
  | entered room =>
      rw [place] at here
      have alone : ¬(PresenceStage.Reached stage (.removing room) ∨
          PresenceStage.Reached stage (.erased room)) := by
        rintro (⟨other, there⟩ | ⟨other, there⟩) <;>
        · refine orderly other index room ?_ here.phase
          rw [(sound.staged other).phase, there]
          rfl
      have ceiling := sound.few room
      have later : Text.isWord ((SharedStore.ledger seen).total room + 1) = true :=
        Text.isWord_of_le (by have := floor room; omega) (Int.add_le_add_right ceiling 1) little
      obtain ⟨store, ran, records⟩ :=
        sound.records.join place (floor room) alone (word room) later
      rw [step_perform here rfl, ran]
      obtain ⟨later, queue, survey⟩ := here.hear rfl
        (.integer ((SharedStore.ledger seen).total room + 1))
      refine ⟨_, sound.counting later (by rw [place]; rfl) rfl queue survey ?_ records⟩
      simp only [PresenceLedger.apply_fst, PresenceChange.room, PresenceChange.weight, if_true]
      have := floor room
      omega
  | leaving room =>
      rw [place] at here
      have some := sound.total_pos paced place
      have ceiling := sound.few room
      have later : Text.isWord ((SharedStore.ledger seen).total room - 1) = true :=
        Text.isWord_of_le (by omega) (Int.le_trans (Int.sub_le_self _ (by decide)) ceiling)
          (Nat.lt_of_succ_lt little)
      obtain ⟨store, ran, records⟩ := sound.records.leave place some (word room) later
      rw [step_perform here rfl, ran]
      obtain ⟨later, queue, survey⟩ := here.hear rfl
        (.integer ((SharedStore.ledger seen).total room - 1))
      refine ⟨_, sound.counting later (by rw [place]; rfl) ?_ queue survey ?_ records⟩
      · simp only [PresenceStage.after]
        split <;> rfl
      · simp only [PresenceLedger.apply_fst, PresenceChange.room, PresenceChange.weight, if_true]
        omega

/-- A reader sees what Redis holds when it looks: first the rooms, then the counters. A reply that
    Redis cannot give is no move. -/
theorem look (sound : Sound keys seen shared stage)
    (little : seen.length < 9223372036854775808) {survey : Exchange}
    (asked : (shared.party index).survey = some survey) (reply : Redis.Reply) :
    shared.step keys (.look index reply) = ([], shared) ∨
    (∃ rooms : List String, rooms.Nodup ∧
      (∀ room, room ∈ rooms ↔ Utf8.ofString room ∈ shared.store.set keys.rooms) ∧
      shared.step keys (.look index reply) = ([], shared.update index
        { shared.party index with
          survey := some ⟨[.hgetall keys.members], [.elements (rooms.map Utf8.ofString)]⟩ })) ∨
    ∃ rooms : List String, rooms.Nodup ∧
      survey = ⟨[.hgetall keys.members], [.elements (rooms.map Utf8.ofString)]⟩ ∧
      shared.step keys (.look index reply) =
        ([.answered index (some ((sortNames rooms).map fun room =>
          ⟨room, (SharedStore.ledger seen).total room⟩))],
        shared.update index { shared.party index with survey := none }) := by
  rcases sound.reads index survey asked with rfl | ⟨rooms, distinct, rfl⟩
  · by_cases possible : (Redis.Reply.elements (shared.store.set keys.rooms).toList).Reordered reply
    · right; left
      obtain ⟨_, rfl, listed⟩ := Redis.Reply.reordered_elements.mp possible
      obtain ⟨rooms, rfl, distinct, members⟩ := exists_names sound.records.elements listed
      refine ⟨rooms, distinct, members, ?_⟩
      simp [SharedStore.step, asked, PresenceKeys.survey, Redis.Store.run, possible]
    · left
      simp [SharedStore.step, asked, PresenceKeys.survey, Redis.Store.run, possible]
  · by_cases possible : (Redis.Reply.fields (shared.store.hash keys.members).toList).Reordered reply
    · right; right
      obtain ⟨fields, rfl, listed⟩ := Redis.Reply.reordered_fields.mp possible
      refine ⟨rooms, distinct, rfl, ?_⟩
      simp only [SharedStore.step, asked, Redis.Store.run, possible, not_true_eq_false, if_false,
        if_true, List.cons_append, List.nil_append,
        sound.records.readSurvey? (sound.word little) rooms listed]
    · left
      simp only [SharedStore.step, asked, Redis.Store.run, possible, not_false_eq_true, if_true]

theorem step (sound : Sound keys seen shared stage)
    (little : seen.length + 1 < 9223372036854775808)
    (paced : ∀ index, PresenceChange.Paced (SharedStore.taken index seen))
    (orderly : shared.Orderly) (move : StoreMove parties) :
    ∃ stage, Sound keys (seen ++ (shared.step keys move).1) (shared.step keys move).2 stage := by
  have asking {index : Fin parties} {survey : Option Exchange}
      (reads : ∀ asked, survey = some asked → Reads keys asked)
      {new : List (StoreEvent parties)} (still : ∀ other, counted other new = [])
      (same : new.filterMap StoreEvent.change? = [])
      (elsewhere : ∀ other, SharedStore.taken other new = []) :
      ∃ stage, Sound keys (seen ++ new)
        (shared.update index { shared.party index with survey }) stage := by
    obtain ⟨phase, commands, replies⟩ := sound.staged index
    refine ⟨Function.update stage index (stage index), sound.uncounted ⟨phase, commands, replies⟩
      still same (fun other _ => elsewhere other) ?_ ?_ reads⟩
    · rw [elsewhere, List.append_nil]
    · rw [Function.update_eq_self]
      exact sound.records
  cases move with
  | record index change => exact sound.record index change
  | begin index => exact sound.begin index
  | perform index => exact sound.perform little paced orderly index
  | ask index =>
      simp only [SharedStore.step]
      split
      · refine asking ?_ (fun _ => rfl) rfl fun _ => rfl
        rintro asked ⟨⟩
        exact .inl rfl
      · exact ⟨stage, by simpa using sound⟩
  | look index reply =>
      cases asked : (shared.party index).survey with
      | none =>
          simp only [SharedStore.step, asked]
          exact ⟨stage, by simpa using sound⟩
      | some survey =>
          rcases sound.look (Nat.lt_of_succ_lt little) asked reply with
            same | ⟨rooms, distinct, -, steps⟩ | ⟨rooms, -, -, steps⟩
          · rw [same]
            exact ⟨stage, by simpa using sound⟩
          · rw [steps]
            refine asking ?_ (fun _ => rfl) rfl fun _ => rfl
            rintro asked ⟨⟩
            exact .inr ⟨rooms, distinct, rfl⟩
          · rw [steps]
            exact asking (by simp) (fun _ => rfl) rfl fun _ => rfl

end Sound

/-- A run of instances that begin with nothing. -/
def run (keys : PresenceKeys) (capacity : Fin parties → Nat) (moves : List (StoreMove parties)) :
    List (StoreEvent parties) × SharedStore parties :=
  play (step keys) (start capacity) moves

/-- Runs in which Redis keeps up: no instance takes more departures than arrivals, nobody is about
    to join a room that somebody is about to remove, and counters stay within a word. -/
structure Fair (keys : PresenceKeys) (capacity : Fin parties → Nat)
    (moves : List (StoreMove parties)) : Prop where
  paced : ∀ index, PresenceChange.Paced (taken index (run keys capacity moves).1)
  orderly : ∀ earlier, earlier <+: moves → (run keys capacity earlier).2.Orderly
  little : moves.length < 9223372036854775808

namespace Fair

variable {keys : PresenceKeys} {capacity : Fin parties → Nat} {moves : List (StoreMove parties)}

theorem run_append (moves later : List (StoreMove parties)) :
    run keys capacity (moves ++ later) =
      ((run keys capacity moves).1 ++ (play (step keys) (run keys capacity moves).2 later).1,
        (play (step keys) (run keys capacity moves).2 later).2) :=
  play_append ..

theorem of_prefix {earlier : List (StoreMove parties)} (fair : Fair keys capacity moves)
    (before : earlier <+: moves) : Fair keys capacity earlier where
  paced index := by
    obtain ⟨later, rfl⟩ := before
    have paced := fair.paced index
    rw [run_append, taken_append] at paced
    exact fun first start => paced first (start.trans (List.prefix_append ..))
  orderly first start := fair.orderly first (start.trans before)
  little := Nat.lt_of_le_of_lt before.length_le fair.little

theorem length_step (keys : PresenceKeys) (shared : SharedStore parties)
    (move : StoreMove parties) :
    (shared.step keys move).1.length ≤ 1 := by
  cases move with
  | record index change =>
      simp only [step]
      split <;> simp
  | begin index =>
      simp only [step]
      split <;> simp
  | perform index =>
      simp only [step]
      split
      · simp
      · split <;> simp
  | ask index =>
      simp only [step]
      split <;> simp
  | look index reply =>
      simp only [step]
      split
      · split
        · simp
        · split <;> simp
      · simp

/-- The invariant holds throughout a fair run. -/
theorem sound (fair : Fair keys capacity moves) :
    (run keys capacity moves).1.length ≤ moves.length ∧
      ∃ stage, Sound keys (run keys capacity moves).1 (run keys capacity moves).2 stage := by
  -- from the end, because fairness of a run is about what it has shown up to there
  induction moves using List.reverseRecOn with
  | nil => exact ⟨Nat.le_refl _, _, .start keys capacity⟩
  | append_singleton moves move ih =>
      have before := fair.of_prefix (List.prefix_append moves [move])
      obtain ⟨few, stage, sound⟩ := ih before
      have little := fair.little
      rw [List.length_append, List.length_singleton] at little
      have one := length_step keys (run keys capacity moves).2 move
      rw [run, play_snoc]
      have orderly := before.orderly moves (List.prefix_refl _)
      refine ⟨?_, sound.step (by omega) before.paced orderly move⟩
      simp only [List.length_append, List.length_singleton]
      exact Nat.add_le_add few one

end Fair
/-- At rest Redis holds a ledger that has recorded every change that was taken, those of each
    instance in their order. -/
structure Settled (keys : PresenceKeys) (seen : List (StoreEvent parties))
    (shared : SharedStore parties) : Prop where
  serial : ∀ index, counted index seen = taken index seen
  count : ∀ room, (ledger seen).count? room =
    let total := ∑ index, PresenceChange.net room (taken index seen)
    if 0 < total then some total else none
  members : ∀ field value, (shared.store.hash keys.members)[field]? = some value ↔
    ∃ room count, (ledger seen).count? room = some count ∧
      field = Utf8.ofString room ∧ value = Redis.ofInteger count
  rooms : ∀ element, element ∈ shared.store.set keys.rooms ↔
    ∃ room, (ledger seen).isActive room = true ∧ element = Utf8.ofString room

namespace Sound

variable {keys : PresenceKeys} {seen : List (StoreEvent parties)} {shared : SharedStore parties}
  {stage : Fin parties → PresenceStage} {index : Fin parties}

theorem not_reached (sound : Sound keys seen shared stage) {room : String}
    (quiet : shared.Quiet room) {place : PresenceStage} (busy : place.phase.room? = some room) :
    ¬PresenceStage.Reached stage place := by
  rintro ⟨index, there⟩
  refine quiet index ?_
  rw [(sound.staged index).phase, there, busy]

/-- While nobody is busy with a room, it is listed if it has members. -/
theorem listed_iff (sound : Sound keys seen shared stage) {room : String}
    (quiet : shared.Quiet room) : Utf8.ofString room ∈ shared.store.set keys.rooms ↔
      0 < (SharedStore.ledger seen).total room := by
  refine ⟨fun listed => ?_, fun some => sound.records.listed room (.inl some)⟩
  rcases sound.records.reason room listed with some | entered | removing | erased
  · exact some
  · exact absurd entered (sound.not_reached quiet rfl)
  · exact absurd removing (sound.not_reached quiet rfl)
  · exact absurd erased (sound.not_reached quiet rfl)

/-- While nobody is busy with a room, it has a counter if it has members. -/
theorem tally_eq (sound : Sound keys seen shared stage) {room : String}
    (quiet : shared.Quiet room) :
    (shared.store.hash keys.members)[Utf8.ofString room]? =
      ((SharedStore.ledger seen).count? room).map Redis.ofInteger := by
  rw [sound.ledger.count?_eq]
  rcases sound.records.tally room with ⟨counted, some | removing⟩ | ⟨none, nobody⟩
  · rw [counted, if_pos some, Option.map_some]
  · exact absurd removing (sound.not_reached quiet rfl)
  · rw [none, nobody]
    rfl

theorem settled (sound : Sound keys seen shared stage) (idle : shared.Idle) :
    Settled keys seen shared := by
  have rest (index : Fin parties) : (shared.party index).worker.phase = .idle ∧
      (shared.party index).worker.queue = [] := by
    simpa [PresenceWorker.isIdle] using idle index
  have quiet (room : String) : shared.Quiet room := fun index => by
    rw [(rest index).1]
    exact nofun
  have serial (index : Fin parties) : counted index seen = SharedStore.taken index seen := by
    have phase := (sound.staged index).phase
    rw [(rest index).1] at phase
    have nothing : (stage index).due = [] := by
      cases place : stage index <;> rw [place] at phase <;> first | rfl | cases phase
    rw [sound.taken, nothing, (rest index).2, List.append_nil, List.append_nil]
  refine ⟨serial, fun room => ?_, fun field value => ?_, fun element => ?_⟩
  · simp only [sound.ledger.count?_eq, sound.sum, serial]
  · constructor
    · intro held
      obtain ⟨room, rfl⟩ := sound.records.fields field
        (Std.ExtTreeMap.mem_iff_isSome_getElem?.mpr (by rw [held]; rfl))
      rw [sound.tally_eq (quiet room), Option.map_eq_some_iff] at held
      obtain ⟨count, counted, rfl⟩ := held
      exact ⟨room, count, counted, rfl, rfl⟩
    · rintro ⟨room, count, counted, rfl, rfl⟩
      rw [sound.tally_eq (quiet room), counted, Option.map_some]
  · constructor
    · intro listed
      obtain ⟨room, rfl⟩ := sound.records.elements element listed
      exact ⟨room, (sound.ledger.isActive_iff room).mpr ((sound.listed_iff (quiet room)).mp listed),
        rfl⟩
    · rintro ⟨room, active, rfl⟩
      exact (sound.listed_iff (quiet room)).mpr ((sound.ledger.isActive_iff room).mp active)

end Sound
/-- What is counted is the change that a worker is busy with. -/
theorem phase_of_counted {keys : PresenceKeys} {shared : SharedStore parties}
    {move : StoreMove parties} {index : Fin parties} {change : PresenceChange}
    (counts : .counted index change ∈ (shared.step keys move).1) :
    (shared.party index).worker.phase = .applying change := by
  cases move with
  | perform other =>
      simp only [step] at counts
      split at counts
      · simp at counts
      · split at counts
        · next applying _ =>
            simp only [List.mem_singleton, StoreEvent.counted.injEq] at counts
            obtain ⟨rfl, rfl⟩ := counts
            exact applying
        · simp at counts
  | record other change' =>
      simp only [step] at counts
      split at counts <;> simp at counts
  | begin other =>
      simp only [step] at counts
      split at counts <;> simp at counts
  | ask other =>
      simp only [step] at counts
      split at counts <;> simp at counts
  | look other reply =>
      simp only [step] at counts
      split at counts
      · split at counts
        · simp at counts
        · split at counts <;> simp at counts
      · simp at counts

theorem total_append {seen new : List (StoreEvent parties)} {room : String}
    (others : ∀ index change, .counted index change ∈ new → change.room ≠ room) :
    (ledger (seen ++ new)).total room = (ledger seen).total room := by
  rw [ledger_append]
  generalize ledger seen = before
  induction new generalizing before with
  | nil => rfl
  | cons event new ih =>
      have later := ih fun index change there => others index change (List.mem_cons_of_mem _ there)
      cases event with
      | counted index change =>
          have other := others index change List.mem_cons_self
          exact (later _).trans (before.total_record_of_ne other)
      | _ => exact later before

/-- Nothing happens to the counter of a room that nobody is busy with. -/
theorem total_step {keys : PresenceKeys} {shared : SharedStore parties}
    {seen : List (StoreEvent parties)} {room : String} (quiet : shared.Quiet room)
    (move : StoreMove parties) :
    (ledger (seen ++ (shared.step keys move).1)).total room = (ledger seen).total room := by
  refine total_append fun index change counts same => quiet index ?_
  rw [phase_of_counted counts, ← same]
  rfl

/-- A reader that has read the rooms has read the truth about one of them. -/
def Watches (keys : PresenceKeys) (room : String) (there : Prop) (survey : Exchange) : Prop :=
  ∀ rooms : List String,
    survey = ⟨[.hgetall keys.members], [.elements (rooms.map Utf8.ofString)]⟩ →
      (room ∈ rooms ↔ there)

/-- Only asking and looking change what a reader has under way. -/
theorem survey_step {keys : PresenceKeys} {shared : SharedStore parties}
    {move : StoreMove parties} {index : Fin parties} (asking : move ≠ .ask index)
    (looking : ∀ reply, move ≠ .look index reply) :
    ((shared.step keys move).2.party index).survey = (shared.party index).survey := by
  have elsewhere {other : Fin parties} {party : PresenceParty} {store : Redis.Store}
      (same : party.survey = (shared.party other).survey ∨ other ≠ index) :
      (({ shared with store }.update other party).party index).survey =
        (shared.party index).survey := by
    by_cases self : index = other
    · subst self
      simpa [update] using same
    · simp [update, self]
  cases move with
  | record other change => exact elsewhere (.inl rfl)
  | begin other =>
      simp only [step]
      split
      · exact elsewhere (.inl rfl)
      · rfl
  | perform other =>
      simp only [step]
      split
      · rfl
      · refine elsewhere (.inl ?_)
        unfold PresenceParty.hear
        split <;> rfl
  | ask other =>
      have apart : other ≠ index := fun same => asking (by rw [same])
      simp only [step]
      split
      · exact elsewhere (.inr apart)
      · rfl
  | look other reply =>
      have apart : other ≠ index := fun same => looking reply (by rw [same])
      simp only [step]
      split
      · split
        · rfl
        · split <;> exact elsewhere (.inr apart)
      · rfl

/-- A reader that looks while nobody is busy with a room reads what it is like. -/
theorem Sound.watches {keys : PresenceKeys} {seen : List (StoreEvent parties)}
    {shared : SharedStore parties} {stage : Fin parties → PresenceStage} {index : Fin parties}
    {room : String} (sound : Sound keys seen shared stage)
    (little : seen.length < 9223372036854775808) (quiet : shared.Quiet room)
    (watched : ∀ survey, (shared.party index).survey = some survey →
      Watches keys room (0 < (SharedStore.ledger seen).total room) survey)
    (move : StoreMove parties) (survey : Exchange)
    (asked : ((shared.step keys move).2.party index).survey = some survey) :
    Watches keys room (0 < (SharedStore.ledger seen).total room) survey := by
  by_cases asking : move = .ask index
  · subst asking
    simp only [SharedStore.step] at asked
    split at asked
    · simp only [update, Function.update_self, Option.some.injEq] at asked
      subst asked
      rintro rooms ⟨⟩
    · exact watched survey asked
  · by_cases looking : ∃ reply, move = .look index reply
    · obtain ⟨reply, rfl⟩ := looking
      cases before : (shared.party index).survey with
      | none =>
          simp only [SharedStore.step, before] at asked
          cases asked
      | some earlier =>
          rcases sound.look little before reply with
            same | ⟨rooms, -, listed, steps⟩ | ⟨rooms, -, -, steps⟩
          · rw [same] at asked
            exact watched survey asked
          · rw [steps] at asked
            simp only [update, Function.update_self, Option.some.injEq] at asked
            subst asked
            intro rooms' same
            simp only [Exchange.mk.injEq, List.cons.injEq, Redis.Reply.elements.injEq,
              true_and, and_true] at same
            rw [← sound.listed_iff quiet, ← listed]
            have injective : Function.Injective Utf8.ofString := fun _ _ => Utf8.ofString_injective
            rw [List.map_injective_iff.mpr injective same]
          · rw [steps] at asked
            simp [update] at asked
    · rw [survey_step asking fun reply same => looking ⟨reply, same⟩] at asked
      exact watched survey asked

/-- Through a fair run in which nobody is busy with a room, a reader that began meanwhile reads what
    the room is like. -/
theorem Fair.watches {keys : PresenceKeys} {capacity : Fin parties → Nat}
    {before during : List (StoreMove parties)} {index : Fin parties} {room : String}
    (fair : Fair keys capacity (before ++ during))
    (free : ((run keys capacity before).2.party index).survey = none)
    (quiet : ∀ part, part <+: during → (run keys capacity (before ++ part)).2.Quiet room)
    (survey : Exchange)
    (asked : ((run keys capacity (before ++ during)).2.party index).survey = some survey) :
    Watches keys room (0 < (ledger (run keys capacity (before ++ during)).1).total room) survey := by
  induction during using List.reverseRecOn generalizing survey with
  | nil =>
      rw [List.append_nil] at asked
      exact nomatch free.symm.trans asked
  | append_singleton during move ih =>
      have start : before ++ during <+: before ++ (during ++ [move]) := by
        rw [← List.append_assoc]
        exact List.prefix_append ..
      have earlier := fair.of_prefix start
      have here := quiet during (List.prefix_append ..)
      have watched := ih earlier fun part first => quiet part (first.trans (List.prefix_append ..))
      obtain ⟨few, stage, sound⟩ := earlier.sound
      have little := Nat.lt_of_le_of_lt few earlier.little
      have snoc : run keys capacity (before ++ (during ++ [move])) =
          ((run keys capacity (before ++ during)).1 ++
            ((run keys capacity (before ++ during)).2.step keys move).1,
            ((run keys capacity (before ++ during)).2.step keys move).2) := by
        rw [← List.append_assoc, run, play_snoc]
        rfl
      rw [snoc] at asked ⊢
      rw [total_step here]
      exact sound.watches little here watched move survey asked

/-- A reader always has an answer, which ascends by the names of the rooms. It tells the truth about
    the rooms that nobody was busy with while it read. -/
theorem Fair.answers {keys : PresenceKeys} {capacity : Fin parties → Nat}
    {before during : List (StoreMove parties)} {index : Fin parties}
    {reply : Redis.Reply} {answer : Option (List RoomPresence)}
    (fair : Fair keys capacity (before ++ during))
    (free : ((run keys capacity before).2.party index).survey = none)
    (answered : .answered index answer ∈
      ((run keys capacity (before ++ during)).2.step keys (.look index reply)).1) :
    ∃ listing, answer = some listing ∧
      (listing.Pairwise fun a b => compare a.room b.room = .lt) ∧
      ∀ room, (∀ part, part <+: during → (run keys capacity (before ++ part)).2.Quiet room) →
        ∀ members, ⟨room, members⟩ ∈ listing ↔
          ⟨room, members⟩ ∈ (ledger (run keys capacity (before ++ during)).1).active := by
  obtain ⟨few, stage, sound⟩ := fair.sound
  have little := Nat.lt_of_le_of_lt few fair.little
  cases asked : ((run keys capacity (before ++ during)).2.party index).survey with
  | none => simp [step, asked] at answered
  | some survey =>
      rcases sound.look little asked reply with
        same | ⟨rooms, -, -, steps⟩ | ⟨rooms, distinct, reading, steps⟩
      · rw [same] at answered
        simp at answered
      · rw [steps] at answered
        simp at answered
      · rw [steps] at answered
        simp only [List.mem_singleton, StoreEvent.answered.injEq, true_and] at answered
        refine ⟨_, answered, List.pairwise_map.mpr (sortNames_ascending distinct),
          fun room quiet members => ?_⟩
        rw [sound.ledger.mem_active, ← fair.watches free quiet survey asked rooms reading]
        simp only [List.mem_map, mem_sortNames, RoomPresence.mk.injEq]
        constructor
        · rintro ⟨_, listed, rfl, rfl⟩
          exact ⟨listed, rfl⟩
        · rintro ⟨listed, rfl⟩
          exact ⟨room, listed, rfl, rfl⟩

/-- Instances that take no more departures than arrivals keep a ledger in Redis, unless somebody is
    about to join a room while somebody else is about to remove it. Once nothing is left to do,
    Redis holds what a ledger holds that has recorded all changes one after the other, and readers
    have told the truth about every room that nobody was busy with meanwhile. -/
theorem store_keeps_ledger (keys : PresenceKeys) (capacity : Fin parties → Nat)
    (moves : List (StoreMove parties)) (fair : Fair keys capacity moves) :
    let last := run keys capacity moves
    (last.2.Idle → Settled keys last.1 last.2) ∧
    ∀ before during index reply answer, moves = before ++ during →
      ((run keys capacity before).2.party index).survey = none →
      .answered index answer ∈ (last.2.step keys (.look index reply)).1 →
      ∃ listing, answer = some listing ∧
        (listing.Pairwise fun a b => compare a.room b.room = .lt) ∧
        ∀ room, (∀ part, part <+: during → (run keys capacity (before ++ part)).2.Quiet room) →
          ∀ members, ⟨room, members⟩ ∈ listing ↔ ⟨room, members⟩ ∈ (ledger last.1).active := by
  obtain ⟨few, stage, sound⟩ := fair.sound
  refine ⟨sound.settled, ?_⟩
  rintro before during index reply answer rfl free answered
  exact fair.answers free answered

/-- The exchanges of two instances mingle, and afterwards somebody reads. -/
theorem store_keeps_ledger_mingling :
    let keys : PresenceKeys := ⟨Utf8.ofString "rooms", Utf8.ofString "room:members"⟩
    let before : List (StoreMove 2) :=
      [.record 0 (.joined "a"), .record 1 (.joined "a"), .record 1 (.left "a"), .begin 0, .begin 1,
        .perform 0, .perform 1, .perform 1, .begin 1, .perform 0, .perform 1]
    let during : List (StoreMove 2) := [.ask 0, .look 0 (.elements [Utf8.ofString "a"])]
    let counts : Redis.Reply := .fields [(Utf8.ofString "a", Redis.ofInteger 1)]
    let last := run keys (fun _ => 8) (before ++ during)
    Fair keys (fun _ => 8) (before ++ during) ∧ Settled keys last.1 last.2 ∧
      (last.2.step keys (.look 0 counts)).1 = [.answered 0 (some [⟨"a", 1⟩])] ∧
      ⟨"a", 1⟩ ∈ (ledger last.1).active := by
  intro keys before during counts last
  have fair : Fair keys (fun _ => 8) (before ++ during) := by
    refine ⟨by decide +kernel, fun earlier start => ?_, by decide⟩
    have each : ∀ earlier ∈ (before ++ during).inits,
        (run keys (fun _ => 8) earlier).2.Orderly := by
      decide +kernel
    exact each earlier ((List.mem_inits ..).mpr start)
  have idle : last.2.Idle := by decide +kernel
  have free : ((run keys (fun _ => 8) before).2.party 0).survey.isNone = true := by decide +kernel
  have answered : (last.2.step keys (.look 0 counts)).1 = [.answered 0 (some [⟨"a", 1⟩])] := by
    decide +kernel
  have quiet : ∀ part ∈ during.inits, (run keys (fun _ => 8) (before ++ part)).2.Quiet "a" := by
    decide +kernel
  obtain ⟨settled, answers⟩ := store_keeps_ledger keys (fun _ => 8) (before ++ during) fair
  obtain ⟨listing, same, -, truth⟩ := answers before during 0 counts _ rfl
    (Option.isNone_iff_eq_none.mp free) (answered ▸ List.mem_singleton_self _)
  cases same
  refine ⟨fair, settled idle, answered, ?_⟩
  exact (truth "a" (fun part start => quiet part ((List.mem_inits ..).mpr start)) 1).mp
    List.mem_cons_self

/-- A member is lost. The last one leaves a room, and before the room is removed somebody reads it
    with nobody in it and another instance joins it. -/
theorem room_removed_with_member :
    let keys : PresenceKeys := ⟨Utf8.ofString "rooms", Utf8.ofString "room:members"⟩
    let moves : List (StoreMove 2) :=
      [.record 0 (.joined "R"), .begin 0, .perform 0, .perform 0,
        .record 0 (.left "R"), .begin 0, .perform 0,
        .ask 1, .look 1 (.elements [Utf8.ofString "R"]),
        .look 1 (.fields [(Utf8.ofString "R", Redis.ofInteger 0)]),
        .record 1 (.joined "R"), .begin 1, .perform 1, .perform 1,
        .perform 0, .perform 0]
    let last := run keys (fun _ => 8) moves
    (∀ index, PresenceChange.Paced (taken index last.1)) ∧ last.2.Idle ∧
      ∑ index, PresenceChange.net "R" (taken index last.1) = 1 ∧
      (last.2.store.hash keys.members)[Utf8.ofString "R"]? = none ∧
      Utf8.ofString "R" ∉ last.2.store.set keys.rooms ∧
      .answered 1 (some [⟨"R", 0⟩]) ∈ last.1 := by
  intro keys moves last
  refine ⟨?_, ?_, ?_, ?_, ?_, ?_⟩ <;> decide +kernel

end SharedStore
end ChatRelay
