import ChatRelay.Proofs.Fanout.Incoming
import Mathlib.Algebra.Order.Ring.Rat
import Mathlib.Tactic.Linarith
import Mathlib.Tactic.Positivity
import Mathlib.Tactic.Ring

/-! # The schedule of delays

A delay depends on its own jitter and on how many delays there were since the schedule began or was
last started anew, and on nothing else. So the jitter of one delay is in no later one, and the bound
holds for all of them. The subscriber pauses by this schedule, counted from its last subscription.
-/

namespace ChatRelay

theorem lesser_eq_min (a b : Rat) : lesser a b = min a b := (min_def a b).symm

namespace Backoff

/-- What the delay number `k`, the first one being number zero, is before its jitter. -/
def scheduled (initial bound : Rat) (k : Nat) : Rat :=
  if k = 0 then initial else min (2 ^ k * initial) bound

/-- The delay number `k` with a jitter. -/
def delay (initial bound : Rat) (k : Nat) (jitter : Rat) : Rat :=
  min (jitter * scheduled initial bound k) bound

/-- What a jitter can be: it takes away or adds a fifth at most. -/
def IsJitter (jitter : Rat) : Prop := 4 / 5 ≤ jitter ∧ jitter < 6 / 5

/-- A schedule that has given `k` delays since it began. -/
def after (initial bound : Rat) (k : Nat) : Backoff :=
  { ofBounds .exact initial bound with current := scheduled initial bound k }

variable {initial bound : Rat}

theorem scheduled_succ (initial : Rat) (positive : 0 ≤ bound) (k : Nat) :
    min (2 * scheduled initial bound k) bound = scheduled initial bound (k + 1) := by
  cases k with
  | zero => simp [scheduled]
  | succ k =>
      have doubled : 2 * min (2 ^ (k + 1) * initial) bound =
          min (2 ^ (k + 2) * initial) (2 * bound) := by
        rw [mul_min_of_nonneg _ _ zero_le_two]
        ring_nf
      have more : bound ≤ 2 * bound := by linarith
      simp only [scheduled, Nat.succ_ne_zero, if_false, doubled, min_assoc, min_eq_right more]

theorem next_after (positive : 0 ≤ bound) (k : Nat) (jitter : Rat) :
    (after initial bound k).next jitter =
      (delay initial bound k jitter, after initial bound (k + 1)) := by
  have grows := scheduled_succ initial positive k
  simp only [next, after, ofBounds, Precision.reading, Precision.computed, Precision.kept,
    lesser_eq_min, grows, delay]

theorem reset_after (k : Nat) : (after initial bound k).reset = after initial bound 0 := rfl

/-! ## How long a delay is -/

theorem scheduled_le (k : Nat) : scheduled initial bound k ≤ 2 ^ k * initial := by
  cases k with
  | zero => simp [scheduled]
  | succ k => simp [scheduled]

theorem le_scheduled (k : Nat) : min (2 ^ k * initial) bound ≤ scheduled initial bound k := by
  cases k with
  | zero => simp [scheduled]
  | succ k => simp [scheduled]

theorem delay_le_bound (k : Nat) (jitter : Rat) : delay initial bound k jitter ≤ bound :=
  min_le_right _ _

theorem le_delay (positive : 0 ≤ initial) (room : 0 ≤ bound) (k : Nat) {jitter : Rat}
    (fair : IsJitter jitter) :
    4 / 5 * min (2 ^ k * initial) bound ≤ delay initial bound k jitter := by
  have some : 0 ≤ min (2 ^ k * initial) bound := le_min (by positivity) room
  have forward : 0 ≤ jitter := by linarith [fair.1]
  refine le_min ?_ ?_
  · calc 4 / 5 * min (2 ^ k * initial) bound
        ≤ jitter * min (2 ^ k * initial) bound := mul_le_mul_of_nonneg_right fair.1 some
      _ ≤ jitter * scheduled initial bound k :=
        mul_le_mul_of_nonneg_left (le_scheduled k) forward
  · linarith [min_le_right (2 ^ k * initial) bound]

theorem delay_le (positive : 0 ≤ initial) (k : Nat) {jitter : Rat} (fair : IsJitter jitter) :
    delay initial bound k jitter ≤ min (6 / 5 * 2 ^ k * initial) bound := by
  have power : 0 ≤ 2 ^ k * initial := by positivity
  have forward : 0 ≤ jitter := by linarith [fair.1]
  refine min_le_min_right bound ?_
  calc jitter * scheduled initial bound k
      ≤ jitter * (2 ^ k * initial) := mul_le_mul_of_nonneg_left (scheduled_le k) forward
    _ ≤ 6 / 5 * (2 ^ k * initial) := mul_le_mul_of_nonneg_right fair.2.le power
    _ = 6 / 5 * 2 ^ k * initial := by ring

/-! ## Any sequence of calls -/

/-- What is asked of a schedule. -/
inductive Call where
  | next (jitter : Rat)
  | reset

/-- Whether a call asks for a delay. -/
def Call.isNext : Call → Bool
  | .next _ => true
  | .reset => false

/-- The delay that a call gives, if it gives one, and the schedule after it. -/
def call (b : Backoff) : Call → List Rat × Backoff
  | .next jitter => ([(b.next jitter).1], (b.next jitter).2)
  | .reset => ([], b.reset)

/-- How many delays were given since the schedule began or was last started anew. -/
def turn (calls : List Call) : Nat := (calls.reverse.takeWhile Call.isNext).length

theorem turn_snoc_next (calls : List Call) (jitter : Rat) :
    turn (calls ++ [.next jitter]) = turn calls + 1 := by
  rw [turn, List.reverse_append]
  rfl

theorem turn_snoc_reset (calls : List Call) : turn (calls ++ [.reset]) = 0 := by
  simp [turn, Call.isNext]

/-- Only the number of delays since it began is left of what a schedule was asked. -/
theorem play_calls (positive : 0 ≤ bound) (calls : List Call) :
    (play call (ofBounds .exact initial bound) calls).2 = after initial bound (turn calls) := by
  induction calls using List.reverseRecOn with
  | nil => rfl
  | append_singleton calls last ih =>
      rw [play_snoc]
      simp only [ih]
      cases last with
      | next jitter => rw [call, next_after positive, turn_snoc_next]
      | reset => rw [call, reset_after, turn_snoc_reset]

end Backoff

/-! ## The pauses of the subscriber -/

/-- Whether a subscription was had. -/
def HearMark.isListening : HearMark → Bool
  | listening => true
  | _ => false

/-- The connections that failed since the last subscription was had, or since the beginning. -/
def failures (hears : List HearMark) : Nat :=
  (hears.reverse.takeWhile fun mark => !mark.isListening).countP HearMark.isFault

theorem failures_snoc (hears : List HearMark) (mark : HearMark) :
    failures (hears ++ [mark]) =
      if mark.isListening then 0 else failures hears + if mark.isFault then 1 else 0 := by
  cases kind : mark.isListening with
  | true => simp [failures, kind]
  | false => simp [failures, kind, List.countP_cons]

/-- What is seen of envelopes that the hub did not get does not count. -/
theorem failures_missed (hears : List HearMark) (envelopes : List Envelope) (submitted : Bool) :
    failures (hears ++ envelopes.map (.missed · submitted)) = failures hears := by
  induction envelopes using List.reverseRecOn with
  | nil => simp
  | append_singleton envelopes envelope ih =>
      rw [List.map_append, ← List.append_assoc]
      exact (failures_snoc ..).trans ih

namespace Subscriber

variable {id : InstanceId} {naming : ChannelNaming} {hears marks : List HearMark}
  {subscriber next : Subscriber} {holding holding' : Bool}

/-- The delay that comes next has the number of the failures so far. -/
def Paced (initial bound : Rat) (hears : List HearMark) (subscriber : Subscriber) : Prop :=
  subscriber.backoff = .after initial bound (failures hears)

theorem Paced.step {initial bound : Rat} (positive : 0 ≤ bound)
    (paced : Paced initial bound hears subscriber)
    (hearing : Hearing id naming subscriber holding marks next holding') :
    Paced initial bound (hears ++ marks) next := by
  -- a mark that is neither of a subscription nor of a fault
  have quiet {mark : HearMark} (listening : mark.isListening = false) (fault : mark.isFault = false) :
      failures (hears ++ [mark]) = failures hears := by
    rw [failures_snoc, listening, fault]
    rfl
  unfold Paced at paced ⊢
  cases hearing with
  | idle => rwa [List.append_nil]
  | dialled | handed => rwa [quiet rfl rfl]
  | listening _ connecting =>
      rw [listen_of_connecting connecting, paced, failures_snoc]
      rfl
  | failed _ cause jitter isOpen =>
      rw [fail_of_isOpen isOpen, paced, failures_snoc]
      simp only [Backoff.next_after positive]
      rfl
  | received _ channel data listening =>
      rw [quiet rfl rfl]
      obtain ⟨envelope, -, next⟩ | ⟨-, next⟩ | ⟨fault, -, next⟩ :=
        receive_cases id naming listening channel data
      all_goals
        rw [next]
        exact paced
  | relayed relaying =>
      rw [relay_of_relaying relaying, quiet rfl rfl]
      exact paced
  | gone => rwa [List.append_nil]
  | @missed _ envelope relaying =>
      have same := (failures_missed (hears ++ [.returned none]) [envelope] holding).trans
        (quiet rfl rfl)
      rw [List.append_assoc] at same
      rw [relay_of_relaying relaying]
      exact paced.trans (congrArg _ same.symm)
  | dropped => rwa [failures_missed]

end Subscriber

namespace Bridgehead

/-- The subscriber of a bridge goes by the schedule that is used between attempts. -/
theorem paced (id : InstanceId) (naming : ChannelNaming) (node : Node)
    (commandCapacity capacity : Nat) (attached held : Bool) (moves : List BridgeheadMove) :
    let (log, last) :=
      play (step id naming) (start node commandCapacity capacity attached held) moves
    last.bridge.subscriber.Paced (1 / 10) 30 (hears log) := by
  refine play_induction (motive := fun log (b : Bridgehead) =>
    b.bridge.subscriber.Paced (1 / 10) 30 (hears log)) ?_ ?_ moves
  · intro log b move paced
    have stepping : Stepping id naming b move _ _ := b.stepping move
    rw [hears_append]
    exact paced.step (by decide) stepping.hearing
  · have initial : mkRat (100 : Nat) 1000 = 1 / 10 := by decide +kernel
    have bound : mkRat (30000 : Nat) 1000 = 30 := by decide +kernel
    change Backoff.ofBounds .exact (mkRat (100 : Nat) 1000) (mkRat (30000 : Nat) 1000) = _
    rw [initial, bound]
    rfl

end Bridgehead

/-- After any calls, the next delay is what its number and its own jitter come to. So it is never
    above the bound, and no further than a fifth from what is scheduled. When a connection of the
    subscriber fails it pauses for the delay whose number is that of the failures before, counted
    from the beginning or from the last subscription that was had. -/
theorem delays_follow_the_schedule :
    (∀ initial bound : Rat, 0 ≤ initial → 0 ≤ bound →
      ∀ (calls : List Backoff.Call) (jitter : Rat), Backoff.IsJitter jitter →
        let k := Backoff.turn calls
        let schedule := (play Backoff.call (.ofBounds .exact initial bound) calls).2
        let delay := (schedule.next jitter).1
        delay = Backoff.delay initial bound k jitter ∧ delay ≤ bound ∧
          4 / 5 * min (2 ^ k * initial) bound ≤ delay ∧
          delay ≤ min (6 / 5 * 2 ^ k * initial) bound) ∧
    ∀ (id : InstanceId) (naming : ChannelNaming) (node : Node) (commandCapacity capacity : Nat)
      (attached held : Bool) (moves : List BridgeheadMove) (cause : BridgeError) (jitter : Rat),
      let (log, b) := play (Bridgehead.step id naming)
        (.start node commandCapacity capacity attached held) moves
      let (marks, next) := b.step id naming (.fail cause jitter)
      let k := failures (Bridgehead.hears log)
      b.bridge.subscriber.phase.isOpen = true →
        failures (Bridgehead.hears (log ++ marks)) = k + 1 ∧
          next.bridge.subscriber.phase = .pausing (Backoff.delay (1 / 10) 30 k jitter) := by
  constructor
  · intro initial bound some room calls jitter fair k schedule delay
    have is : delay = Backoff.delay initial bound k jitter := by
      simp only [delay, schedule, k, Backoff.play_calls room, Backoff.next_after room]
    rw [is]
    exact ⟨rfl, Backoff.delay_le_bound k jitter, Backoff.le_delay some room k fair,
      Backoff.delay_le some k fair⟩
  · intro id naming node commandCapacity capacity attached held moves cause jitter
    have paced := Bridgehead.paced id naming node commandCapacity capacity attached held moves
    dsimp only at paced ⊢
    intro isOpen
    generalize play (Bridgehead.step id naming) _ moves = run at paced isOpen ⊢
    obtain ⟨log, b⟩ := run
    have step : b.step id naming (.fail cause jitter) =
        ([.hear (.returned (some cause))],
          b.withSubscriber (b.bridge.subscriber.fail jitter)) := if_pos isOpen
    have backoff : b.bridge.subscriber.backoff = _ := paced
    rw [step, Bridgehead.hears_append]
    refine ⟨failures_snoc _ (.returned (some cause)), ?_⟩
    change (b.bridge.subscriber.fail jitter).phase = _
    rw [Subscriber.fail_of_isOpen isOpen, backoff, Backoff.next_after (by decide)]

/-- The third delay since the schedule was started anew is four times the first one. A connection
    that fails at once after another, which had a subscription, is followed by the second delay,
    whatever failed before. -/
theorem delays_follow_the_schedule_anew :
    let calls : List Backoff.Call := [.next 1, .next (9 / 10), .reset, .next (4 / 5), .next 1]
    let schedule := (play Backoff.call (.ofBounds .exact (1 / 10) 1) calls).2
    let node : Node := { id := .zero, loop := .ofCapacity 8 }
    let moves : List BridgeheadMove :=
      [.wake, .fail .streamEnded 1, .wake, .fail .streamEnded 1, .wake, .listen,
        .fail .streamEnded 1, .wake]
    let (log, b) := play (Bridgehead.step .zero .default) (.start node 8 1024 true false) moves
    ((0 : Rat) ≤ 1 / 10 ∧ (0 : Rat) ≤ 1 ∧ Backoff.IsJitter (11 / 10) ∧ Backoff.turn calls = 2 ∧
      (schedule.next (11 / 10)).1 = 11 / 25) ∧
    b.bridge.subscriber.phase.isOpen = true ∧ failures (Bridgehead.hears log) = 1 ∧
      (b.step .zero .default (.fail .streamEnded (11 / 10))).2.bridge.subscriber.phase =
        .pausing (11 / 50) := by
  intro calls schedule node moves
  have fair : Backoff.IsJitter (11 / 10) := by
    unfold Backoff.IsJitter
    decide +kernel
  have follows := delays_follow_the_schedule.1 (1 / 10) 1 (by decide +kernel) (by decide +kernel)
    calls (11 / 10) fair
  have paces := delays_follow_the_schedule.2 .zero .default node 8 1024 true false moves
    .streamEnded (11 / 10)
  have isOpen : (play (Bridgehead.step .zero .default)
      (.start node 8 1024 true false) moves).2.bridge.subscriber.phase.isOpen = true := by
    decide +kernel
  have failed : failures (Bridgehead.hears (play (Bridgehead.step .zero .default)
      (.start node 8 1024 true false) moves).1) = 1 := by
    decide +kernel
  generalize play (Bridgehead.step .zero .default) _ moves = run at paces isOpen failed ⊢
  obtain ⟨log, b⟩ := run
  have second : Backoff.delay (1 / 10) 30 1 (11 / 10) = 11 / 50 := by decide +kernel
  refine ⟨⟨by decide +kernel, by decide +kernel, fair, rfl, follows.1.trans (by decide +kernel)⟩,
    isOpen, failed, ?_⟩
  have pauses := (paces isOpen).2
  rw [failed, second] at pauses
  exact pauses

end ChatRelay
