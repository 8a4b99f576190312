import ChatRelay.Proofs.Presence.Books
import ChatRelay.Proofs.Run

/-! # A worker alone at its Redis

One worker writes to the two keys, and its exchanges may fail: Redis may not carry one out, or its
replies may be lost. An exchange is carried out as a whole or not at all.

Every change that was taken is applied, once and in order. Without failures Redis holds what a
ledger holds; with failures it may hold something else, but a room never lacks what a reader needs.
-/

namespace ChatRelay

def Redis.Reply.isFault : Redis.Reply → Bool
  | .fault _ => true
  | _ => false

/-- What becomes of an exchange. -/
inductive Fate where
  /-- Redis carries it out, and its replies arrive. -/
  | answered
  /-- Redis carries it out, and its replies are lost. -/
  | unanswered
  /-- Redis does not carry it out. -/
  | undone

/-- A worker and the Redis that it writes to. -/
structure SoleWorker where
  worker : PresenceWorker
  store : Redis.Store
  /-- Whether anybody can still record changes. -/
  held : Bool := true

inductive SoleMove where
  | record (change : PresenceChange)
  /-- The worker begins with its next change. -/
  | begin
  /-- The exchange under way comes to its end. -/
  | exchange (fate : Fate)
  /-- From now on nobody can record changes. -/
  | release

inductive SoleEvent where
  /-- A change was put into the queue. -/
  | accepted (change : PresenceChange)
  /-- The worker has begun to apply a change. -/
  | begun (change : PresenceChange)
  | failed (commands : List Redis.Command)
  deriving DecidableEq

namespace SoleEvent

def accepted? : SoleEvent → Option PresenceChange
  | .accepted change => some change
  | _ => none

def begun? : SoleEvent → Option PresenceChange
  | .begun change => some change
  | _ => none

def isFailure : SoleEvent → Bool
  | .failed _ => true
  | _ => false

end SoleEvent

namespace SoleWorker

/-- One move. A move that is not possible changes nothing. -/
def step (keys : PresenceKeys) (sole : SoleWorker) : SoleMove → List SoleEvent × SoleWorker
  | .record change =>
      let worker := sole.worker.record change
      if sole.held = true ∧ worker ≠ sole.worker then ([.accepted change], { sole with worker })
      else ([], sole)
  | .begin =>
      match sole.worker.phase, sole.worker.queue with
      | .idle, change :: _ => ([.begun change], { sole with worker := sole.worker.begin })
      | _, _ => ([], sole)
  | .exchange fate =>
      if sole.worker.phase = .idle then ([], sole)
      else
        let commands := sole.worker.commands keys
        let (replies, store) := sole.store.runAll commands
        match fate with
        | .answered =>
            (if replies.any Redis.Reply.isFault then [.failed commands] else [],
              { sole with worker := sole.worker.settle (some replies), store })
        | .unanswered =>
            ([.failed commands], { sole with worker := sole.worker.settle none, store })
        | .undone => ([.failed commands], { sole with worker := sole.worker.settle none })
  | .release => ([], { sole with held := false })

def run (keys : PresenceKeys) (capacity : Nat) (store : Redis.Store) (moves : List SoleMove) :
    List SoleEvent × SoleWorker :=
  play (step keys) { worker := .ofCapacity capacity, store } moves

/-- Whether the worker has come to its end by itself. -/
def finished (sole : SoleWorker) : Bool := !sole.held && sole.worker.isIdle

/-- The changes that were put into the queue, in their order. -/
def accepted (seen : List SoleEvent) : List PresenceChange := seen.filterMap SoleEvent.accepted?

/-- The changes that the worker has begun to apply, in their order. -/
def begun (seen : List SoleEvent) : List PresenceChange := seen.filterMap SoleEvent.begun?

/-- No exchange has failed. -/
def Undisturbed (seen : List SoleEvent) : Prop := ∀ event ∈ seen, event.isFailure = false

instance (seen : List SoleEvent) : Decidable (Undisturbed seen) :=
  inferInstanceAs (Decidable (∀ _ ∈ _, _))

/-- A ledger that has recorded every change that the worker has begun to apply. -/
def ledger (seen : List SoleEvent) : PresenceLedger := (begun seen).foldl .record {}

theorem accepted_append (seen new : List SoleEvent) :
    accepted (seen ++ new) = accepted seen ++ accepted new :=
  List.filterMap_append

theorem begun_append (seen new : List SoleEvent) : begun (seen ++ new) = begun seen ++ begun new :=
  List.filterMap_append

theorem ledger_append (seen new : List SoleEvent) :
    ledger (seen ++ new) = (begun new).foldl .record (ledger seen) := by
  rw [ledger, begun_append, List.foldl_append]
  rfl

theorem Undisturbed.of_append {seen new : List SoleEvent} (calm : Undisturbed (seen ++ new)) :
    Undisturbed seen ∧ Undisturbed new :=
  List.forall_mem_append.mp calm

end SoleWorker

/-- What the worker still has to do makes the ledger of the books. -/
def PresencePhase.Owes (books ledger : PresenceLedger) : PresencePhase → Prop
  | .idle => ledger = books
  | .applying change => ledger = books.record change
  | .purging room => ledger = books.forget room

/-- An exchange that is carried out keeps the books, and does what the worker owes if no command
    fails. -/
theorem Redis.Store.Holds.exchange {store : Store} {keys : PresenceKeys} {books : PresenceLedger}
    (holds : store.Holds keys books) (covered : books.Covered) (worker : PresenceWorker)
    (busy : worker.phase ≠ .idle) :
    let (replies, after) := store.runAll (worker.commands keys)
    ∃ later, after.Holds keys later ∧ later.Covered ∧
      (replies.any Reply.isFault = false → ∀ ledger, worker.phase.Owes books ledger →
        (worker.settle (some replies)).phase.Owes later ledger) := by
  cases doing : worker.phase with
  | idle => exact absurd doing busy
  | applying change =>
      have commands : worker.commands keys = keys.commands change := by
        simp only [PresenceWorker.commands, doing]
      rw [commands]
      cases change with
      | joined room =>
          obtain ⟨after, ⟨m, n, ran, later⟩ | ⟨m, text, ran, positive, later⟩⟩ := holds.joined room
          · rw [ran]
            refine ⟨_, later, covered.joined room, fun _ ledger owes => ?_⟩
            simp only [PresenceWorker.settle, doing]
            exact owes
          · rw [ran]
            exact ⟨_, later, covered.listed positive, fun calm => Bool.noConfusion calm⟩
      | left room =>
          rcases holds.left room with ⟨after, ran, later⟩ | ⟨text, ran⟩
          · rw [ran]
            refine ⟨_, later, covered.deduct room, fun _ ledger owes => ?_⟩
            have owed : ledger = books.record (.left room) := owes
            rw [PresenceLedger.record_left_eq] at owed
            simp only [PresenceWorker.settle, doing]
            split
            · next few => exact owed.trans (if_pos few)
            · next many => exact owed.trans (if_neg many)
          · rw [ran]
            exact ⟨books, holds, covered, fun calm => Bool.noConfusion calm⟩
  | purging room =>
      have commands : worker.commands keys = keys.purge room := by
        simp only [PresenceWorker.commands, doing]
      rw [commands]
      obtain ⟨later, m, n, replies⟩ := holds.purge room
      refine ⟨_, later, covered.forget room, fun _ ledger owes => ?_⟩
      simp only [PresenceWorker.settle, doing]
      exact owes

namespace SoleWorker

/-- What holds between any two moves. -/
structure Sound (keys : PresenceKeys) (seen : List SoleEvent) (sole : SoleWorker)
    (books : PresenceLedger) : Prop where
  order : accepted seen = begun seen ++ sole.worker.queue
  holds : sole.store.Holds keys books
  covered : books.Covered
  owes : Undisturbed seen → sole.worker.phase.Owes books (ledger seen)

namespace Sound

variable {keys : PresenceKeys} {seen : List SoleEvent} {sole : SoleWorker} {books : PresenceLedger}

theorem record (sound : Sound keys seen sole books) (change : PresenceChange) :
    Sound keys (seen ++ (sole.step keys (.record change)).1)
      (sole.step keys (.record change)).2 books := by
  simp only [SoleWorker.step]
  split
  · next taken =>
      have longer : sole.worker.record change =
          { sole.worker with queue := sole.worker.queue ++ [change] } := by
        have changed := taken.2
        unfold PresenceWorker.record at changed ⊢
        split
        · rfl
        · next full => exact absurd (if_neg full) changed
      rw [longer]
      constructor
      · rw [accepted_append, begun_append, sound.order]
        simp [accepted, begun, SoleEvent.accepted?, SoleEvent.begun?]
      · exact sound.holds
      · exact sound.covered
      · intro calm
        rw [ledger_append]
        exact sound.owes calm.of_append.1
  · rwa [List.append_nil]

theorem begin (sound : Sound keys seen sole books) :
    Sound keys (seen ++ (sole.step keys .begin).1) (sole.step keys .begin).2 books := by
  simp only [SoleWorker.step]
  split
  · next change rest idle waiting =>
      have begun : sole.worker.begin =
          { sole.worker with phase := .applying change, queue := rest } := by
        simp only [PresenceWorker.begin, idle, waiting]
      rw [begun]
      constructor
      · rw [accepted_append, begun_append, sound.order, waiting]
        simp [accepted, SoleWorker.begun, SoleEvent.accepted?, SoleEvent.begun?]
      · exact sound.holds
      · exact sound.covered
      · intro calm
        have owed := sound.owes calm.of_append.1
        rw [idle] at owed
        rw [ledger_append, PresencePhase.Owes, ← owed]
        rfl
  · rwa [List.append_nil]

theorem exchange (sound : Sound keys seen sole books) (fate : Fate) :
    ∃ later, Sound keys (seen ++ (sole.step keys (.exchange fate)).1)
      (sole.step keys (.exchange fate)).2 later := by
  by_cases idle : sole.worker.phase = .idle
  · simp only [SoleWorker.step, if_pos idle, List.append_nil]
    exact ⟨books, sound⟩
  · have carried := sound.holds.exchange sound.covered sole.worker idle
    simp only [SoleWorker.step, if_neg idle]
    generalize sole.store.runAll (sole.worker.commands keys) = outcome at carried ⊢
    obtain ⟨replies, after⟩ := outcome
    obtain ⟨later, holds, covered, does⟩ := carried
    -- what is shown of an exchange is at most its failure
    have kept {new : List SoleEvent} (quiet : accepted new = [] ∧ begun new = [])
        (answer : Option (List Redis.Reply)) : accepted (seen ++ new) =
          begun (seen ++ new) ++ (sole.worker.settle answer).queue := by
      rw [accepted_append, begun_append, quiet.1, quiet.2, PresenceParty.queue_settle,
        List.append_nil, List.append_nil]
      exact sound.order
    have failed (commands : List Redis.Command) {motive : Prop}
        (calm : Undisturbed (seen ++ [.failed commands])) : motive :=
      nomatch calm.of_append.2 _ List.mem_cons_self
    cases fate with
    | answered =>
        refine ⟨later, ?_, holds, covered, ?_⟩
        · apply kept
          cases replies.any Redis.Reply.isFault <;> exact ⟨rfl, rfl⟩
        · cases faulty : replies.any Redis.Reply.isFault with
          | true => exact failed _
          | false =>
              intro calm
              have same : ledger (seen ++ []) = ledger seen := by rw [List.append_nil]
              exact same ▸ does faulty _ (sound.owes calm.of_append.1)
    | unanswered => exact ⟨later, kept ⟨rfl, rfl⟩ none, holds, covered, failed _⟩
    | undone => exact ⟨books, kept ⟨rfl, rfl⟩ none, sound.holds, sound.covered, failed _⟩

theorem step (sound : Sound keys seen sole books) (move : SoleMove) :
    ∃ later, Sound keys (seen ++ (sole.step keys move).1) (sole.step keys move).2 later := by
  cases move with
  | record change => exact ⟨books, sound.record change⟩
  | begin => exact ⟨books, sound.begin⟩
  | exchange fate => exact sound.exchange fate
  | release =>
      simp only [SoleWorker.step, List.append_nil]
      exact ⟨books, sound.order, sound.holds, sound.covered, sound.owes⟩

end Sound

/-- The invariant holds throughout every run. -/
theorem sound_run {keys : PresenceKeys} {store : Redis.Store}
    (fresh : store.set keys.rooms = ∅ ∧ store.hash keys.members = ∅) (capacity : Nat)
    (moves : List SoleMove) :
    ∃ books, Sound keys (run keys capacity store moves).1 (run keys capacity store moves).2
      books := by
  refine play_induction (motive := fun seen sole => ∃ books, Sound keys seen sole books) ?_ ?_ moves
  · rintro seen sole move ⟨books, sound⟩
    exact sound.step move
  · exact ⟨{}, rfl, .empty fresh.1 fresh.2, .empty, fun _ => rfl⟩

/-- A worker whose exchanges may fail begins with every change that it took, in order, before it
    comes to its end. Between changes Redis and its readers have what a ledger has that recorded
    these changes, unless an exchange failed. Whatever failed, every room in the set has a field in
    the hash, every room with a positive counter is in the set, and readers are told of it. In what
    order Redis lists rooms and counters makes no difference. -/
theorem sole_worker_keeps_the_books (keys : PresenceKeys) (capacity : Nat) {store : Redis.Store}
    (fresh : store.set keys.rooms = ∅ ∧ store.hash keys.members = ∅) (moves : List SoleMove) :
    let (seen, sole) := run keys capacity store moves
    (accepted seen = begun seen ++ sole.worker.queue ∧
      (sole.finished = true → begun seen = accepted seen)) ∧
    (Undisturbed seen → sole.worker.phase = .idle →
      sole.store.Holds keys (ledger seen) ∧
        ∀ replies, sole.store.Answers keys.survey replies →
          readSurvey? replies = some (ledger seen).active) ∧
    (∀ room ∈ sole.store.set keys.rooms, room ∈ sole.store.hash keys.members) ∧
    (∀ room value count, (sole.store.hash keys.members)[room]? = some value →
      Redis.integer? value = some count → 0 < count → room ∈ sole.store.set keys.rooms) ∧
    ∃ listing, (∀ replies, sole.store.Answers keys.survey replies →
        readSurvey? replies = some listing) ∧
      (∀ room value count, (sole.store.hash keys.members)[Utf8.ofString room]? = some value →
        Redis.integer? value = some count → 0 < count → ⟨room, count⟩ ∈ listing) ∧
      ∀ entry ∈ listing, ∃ value,
        (sole.store.hash keys.members)[Utf8.ofString entry.room]? = some value ∧
          Redis.integer? value = some entry.members := by
  obtain ⟨books, sound⟩ := sound_run fresh capacity moves
  generalize run keys capacity store moves = last at sound
  obtain ⟨seen, sole⟩ := last
  obtain ⟨order, holds, covered, owes⟩ := sound
  have positive {room : String} {value : Bytes} {count : Int}
      (found : (sole.store.hash keys.members)[Utf8.ofString room]? = some value)
      (reads : Redis.integer? value = some count) (positive : 0 < count) :
      books.count? room = some count ∧ books.isActive room = true := by
    have counted := holds.tally_iff.mp ⟨value, found, reads⟩
    exact ⟨counted, covered.active room count counted positive⟩
  refine ⟨⟨order, ?_⟩, ?_, ?_, ?_, books.active,
    fun _ => holds.survey, ?_, ?_⟩
  · intro finished
    simp only [SoleWorker.finished, PresenceWorker.isIdle, Bool.and_eq_true,
      List.isEmpty_iff] at finished
    rw [order, finished.2.2, List.append_nil]
  · intro calm idle
    have same : ledger seen = books := by
      have owed := owes calm
      rwa [idle] at owed
    rw [same]
    exact ⟨holds, fun _ => holds.survey⟩
  · intro element there
    obtain ⟨room, rfl⟩ := holds.elements element there
    have counted := covered.counted room ((holds.listed room).mp there)
    rw [Std.ExtTreeMap.mem_iff_isSome_getElem?, holds.tally, Option.isSome_map]
    exact counted
  · intro field value count found reads above
    obtain ⟨room, rfl⟩ := holds.fields field
      (Std.ExtTreeMap.mem_iff_isSome_getElem?.mpr (by rw [found]; rfl))
    exact (holds.listed room).mpr (positive found reads above).2
  · intro room value count found reads above
    obtain ⟨counted, active⟩ := positive found reads above
    apply PresenceLedger.mem_active_iff.mpr
    exact ⟨active, by rw [PresenceLedger.total, counted]; rfl⟩
  · intro entry there
    obtain ⟨active, members⟩ := PresenceLedger.mem_active_iff.mp there
    apply holds.tally_iff.mpr
    obtain ⟨count, counted⟩ := Option.isSome_iff_exists.mp (covered.counted _ active)
    rw [members, PresenceLedger.total, counted]
    rfl

/-- A reader is told of two rooms in descending order. In another run the replies to an arrival are
    lost, and somebody leaves who was never counted. -/
theorem sole_worker_keeps_the_books_calm_and_failing :
    let keys : PresenceKeys := ⟨Utf8.ofString "rooms", Utf8.ofString "room:members"⟩
    let arrivals : List SoleMove :=
      [.record (.joined "b"), .record (.joined "a"), .record (.joined "a"), .begin,
        .exchange .answered, .begin, .exchange .answered, .begin, .exchange .answered]
    let replies : List Redis.Reply :=
      [.elements [Utf8.ofString "b", Utf8.ofString "a"],
        .fields [(Utf8.ofString "b", Redis.ofInteger 1), (Utf8.ofString "a", Redis.ofInteger 2)]]
    let failures : List SoleMove :=
      [.record (.joined "a"), .record (.left "b"), .begin, .exchange .unanswered, .begin,
        .exchange .answered, .exchange .undone, .release]
    let calm := run keys 8 {} arrivals
    let failing := run keys 8 {} failures
    (calm.2.store.Answers keys.survey replies ∧ calm.2.store.Holds keys (ledger calm.1) ∧
      readSurvey? replies = some [⟨"a", 2⟩, ⟨"b", 1⟩]) ∧
    failing.2.finished = true ∧ begun failing.1 = [.joined "a", .left "b"] ∧
      Utf8.ofString "b" ∉ failing.2.store.set keys.rooms ∧
      ∃ listing, (∀ replies, failing.2.store.Answers keys.survey replies →
        readSurvey? replies = some listing) ∧ ⟨"a", 1⟩ ∈ listing := by
  intro keys arrivals replies failures calm failing
  have fresh : (({} : Redis.Store).set keys.rooms = ∅) ∧ (({} : Redis.Store).hash keys.members = ∅) :=
    ⟨rfl, rfl⟩
  obtain ⟨-, told, -⟩ := sole_worker_keeps_the_books keys 8 fresh arrivals
  have answers : calm.2.store.Answers keys.survey replies := by decide +kernel
  obtain ⟨holds, read⟩ := told (by decide +kernel) (by decide +kernel)
  have listed : (ledger calm.1).active = [⟨"a", 2⟩, ⟨"b", 1⟩] := by decide +kernel
  obtain ⟨⟨order, whole⟩, -, -, -, listing, answered, counted, -⟩ :=
    sole_worker_keeps_the_books keys 8 fresh failures
  have finished : failing.2.finished = true := by decide +kernel
  refine ⟨⟨answers, holds, (read replies answers).trans (congrArg some listed)⟩, finished, ?_, ?_,
    listing, answered, ?_⟩
  · exact (whole finished).trans (by decide +kernel)
  · decide +kernel
  · exact counted "a" (Redis.ofInteger 1) 1 (by decide +kernel) (by decide +kernel) (by decide)

end SoleWorker
end ChatRelay
