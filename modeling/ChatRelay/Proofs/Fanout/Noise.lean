import ChatRelay.Proofs.Fanout.Bridgehead

/-! # Messages that are not relayed

A message that this instance sent itself, that is on a channel of no room, or that cannot be decoded
is counted, and that is all: without it, everything else goes the same way.
-/

namespace ChatRelay

section

variable (id : InstanceId) (naming : ChannelNaming) (message : String × Bytes)

/-- The envelope that is in a message of another instance. -/
def foreign? : Option Envelope :=
  match acceptInbound id naming message.1 message.2 with
  | .ok found => found
  | .error _ => none

def isOwn : Bool :=
  match acceptInbound id naming message.1 message.2 with
  | .ok none => true
  | _ => false

/-- Whether its channel belongs to no room, or it cannot be decoded. -/
def isMalformed : Bool :=
  match acceptInbound id naming message.1 message.2 with
  | .error _ => true
  | _ => false

end

/-- There is no fourth kind of message. -/
theorem length_messages (id : InstanceId) (naming : ChannelNaming)
    (messages : List (String × Bytes)) :
    messages.length = (messages.filterMap (foreign? id naming)).length +
      messages.countP (isOwn id naming) + messages.countP (isMalformed id naming) := by
  induction messages with
  | nil => rfl
  | cons message messages ih =>
      rw [List.length_cons, ih, List.filterMap_cons, List.countP_cons, List.countP_cons]
      cases read : acceptInbound id naming message.1 message.2 with
      | error fault =>
          simp [foreign?, isOwn, isMalformed, read]
          omega
      | ok found =>
          cases found with
          | none =>
              simp [foreign?, isOwn, isMalformed, read]
              omega
          | some envelope =>
              simp [foreign?, isOwn, isMalformed, read]
              omega

/-- Whether a message arrives that is not relayed. -/
def BridgeheadMove.isNoise (id : InstanceId) (naming : ChannelNaming) : BridgeheadMove → Bool
  | receive channel data => (foreign? id naming (channel, data)).isNone
  | _ => false

def BridgeheadMark.isNoise (id : InstanceId) (naming : ChannelNaming) : BridgeheadMark → Bool
  | hear (.received channel data) => (foreign? id naming (channel, data)).isNone
  | _ => false

namespace Subscriber

/-- A subscriber without the counters to which a message that is not relayed adds. -/
def deaf (subscriber : Subscriber) : Subscriber :=
  { subscriber with received := 0, skippedOwn := 0, malformed := 0 }

variable (subscriber : Subscriber)

theorem deaf_wake (hubExists : Bool) :
    (subscriber.deaf.wake hubExists).deaf = (subscriber.wake hubExists).deaf := by
  obtain ⟨phase⟩ := subscriber
  cases phase <;> rfl

theorem deaf_listen : subscriber.deaf.listen.deaf = subscriber.listen.deaf := by
  obtain ⟨phase⟩ := subscriber
  cases phase <;> rfl

theorem deaf_fail (jitter : Rat) :
    (subscriber.deaf.fail jitter).deaf = (subscriber.fail jitter).deaf := by
  obtain ⟨phase⟩ := subscriber
  cases phase <;> rfl

theorem deaf_receive (id : InstanceId) (naming : ChannelNaming) (channel : String) (data : Bytes) :
    (subscriber.deaf.receive id naming channel data).deaf =
      (subscriber.receive id naming channel data).deaf := by
  obtain ⟨phase⟩ := subscriber
  cases phase with
  | listening =>
      simp only [receive, deaf]
      cases acceptInbound id naming channel data with
      | error fault => rfl
      | ok found => cases found <;> rfl
  | _ => rfl

theorem deaf_relay (taken : Bool) :
    (subscriber.deaf.relay taken).deaf = (subscriber.relay taken).deaf := by
  obtain ⟨phase⟩ := subscriber
  cases phase with
  | relaying => cases taken <;> rfl
  | _ => rfl

end Subscriber

namespace Bridgehead

variable {id : InstanceId} {naming : ChannelNaming}

def deaf (b : Bridgehead) : Bridgehead := b.withSubscriber b.bridge.subscriber.deaf

theorem deaf_phase (b : Bridgehead) :
    b.deaf.bridge.subscriber.phase = b.bridge.subscriber.phase := rfl

theorem step_noise {move : BridgeheadMove} (noise : move.isNoise id naming = true)
    (b : Bridgehead) :
    (b.step id naming move).1.filter (!·.isNoise id naming) = [] ∧
      (b.step id naming move).2.deaf = b.deaf := by
  cases move with
  | receive channel data =>
      have foreign : foreign? id naming (channel, data) = none := Option.isNone_iff_eq_none.mp noise
      simp only [step]
      split
      · next listening =>
          constructor
          · simp [BridgeheadMark.isNoise, foreign]
          · obtain ⟨envelope, read, -⟩ | ⟨-, next⟩ | ⟨fault, -, next⟩ :=
              Subscriber.receive_cases id naming listening channel data
            · simp [foreign?, read] at foreign
            · rw [next]
              rfl
            · rw [next]
              rfl
      · exact ⟨rfl, rfl⟩
  | _ => exact absurd noise Bool.false_ne_true

/-- What is left of a step without those counters. -/
def muted (outcome : List BridgeheadMark × Bridgehead) : List BridgeheadMark × Bridgehead :=
  (outcome.1, outcome.2.deaf)

theorem muted_ite (condition : Prop) [Decidable condition]
    {outcome other outcome' other' : List BridgeheadMark × Bridgehead}
    (first : muted outcome = muted outcome') (second : muted other = muted other') :
    muted (if condition then outcome else other) =
      muted (if condition then outcome' else other') := by
  split
  · exact first
  · exact second

section

variable (b : Bridgehead) {subscriber subscriber' : Subscriber}
  (same : subscriber.deaf = subscriber'.deaf)

include same

theorem muted_withSubscriber (marks : List BridgeheadMark) :
    muted (marks, b.deaf.withSubscriber subscriber) = muted (marks, b.withSubscriber subscriber') :=
  congrArg (fun subscriber => (marks, b.withSubscriber subscriber)) same

theorem muted_conclude (drained : Bool) :
    muted ((b.deaf.withSubscriber subscriber).conclude drained) =
      muted ((b.withSubscriber subscriber').conclude drained) := by
  have next := congrArg (fun own => muted ((b.withSubscriber own).conclude drained)) same
  exact next

end

theorem muted_desert (b : Bridgehead) : muted b.deaf.desert = muted b.desert :=
  congrArg (fun subscriber => (b.desert.1, (b.conclude false).2.withSubscriber subscriber))
    (b.bridge.subscriber.deaf_relay false)

/-- No step depends on those counters. -/
theorem muted_step (b : Bridgehead) (move : BridgeheadMove) :
    muted (b.deaf.step id naming move) = muted (b.step id naming move) := by
  -- Either side makes the same decision, so only the outcomes are compared.
  cases move with
  | world move =>
      cases move with
      | drop => exact muted_ite _ rfl rfl
      | _ => rfl
  | letGo => rfl
  | offer | collect | settle | finish => exact muted_ite _ rfl rfl
  | send =>
      have same : b.deaf.batchReady = b.batchReady := rfl
      simp only [step, same]
      split <;> rfl
  | wake =>
      have next := b.bridge.subscriber.deaf_wake b.loop.canUpgrade
      apply muted_ite
      · apply muted_ite
        · exact b.muted_withSubscriber next _
        · exact b.muted_conclude next false
      · rfl
  | listen =>
      cases phase : b.bridge.subscriber.phase with
      | connecting =>
          simp only [step, deaf_phase, phase]
          exact b.muted_withSubscriber b.bridge.subscriber.deaf_listen _
      | _ =>
          simp only [step, deaf_phase, phase]
          rfl
  | fail cause jitter =>
      apply muted_ite
      · exact b.muted_withSubscriber (b.bridge.subscriber.deaf_fail jitter) _
      · rfl
  | receive channel data =>
      have next := b.bridge.subscriber.deaf_receive id naming channel data
      cases phase : b.bridge.subscriber.phase with
      | listening =>
          simp only [step, deaf_phase, phase]
          exact b.muted_withSubscriber next _
      | _ =>
          simp only [step, deaf_phase, phase]
          rfl
  | reach =>
      cases phase : b.bridge.subscriber.phase with
      | relaying envelope =>
          simp only [step, deaf_phase, phase]
          exact muted_ite _ rfl (muted_ite _ rfl b.muted_desert)
      | _ =>
          simp only [step, deaf_phase, phase]
          rfl
  | submit =>
      cases phase : b.bridge.subscriber.phase with
      | relaying envelope =>
          simp only [step, deaf_phase, phase]
          apply muted_ite
          · have same : b.deaf.loop = b.loop := rfl
            rw [same]
            obtain ⟨answer, loop⟩ := b.loop.submit (.broadcast envelope)
            cases answer with
            | accepted =>
                let rest := { b.withLoop loop.drop with holding := false }
                exact rest.muted_withSubscriber (b.bridge.subscriber.deaf_relay true) _
            | waiting => rfl
            | refused => exact b.muted_desert
          · rfl
      | _ =>
          simp only [step, deaf_phase, phase]
          rfl

theorem quiet_conclude (b : Bridgehead) (drained : Bool) :
    ∀ mark ∈ (b.conclude drained).1, mark.isNoise id naming = false := by
  intro mark member
  obtain hears | posts := List.mem_append.mp member
  · obtain ⟨_, missed, rfl⟩ := List.mem_map.mp hears
    obtain ⟨_, -, rfl⟩ := List.mem_map.mp missed
    rfl
  · obtain rfl := List.mem_singleton.mp posts
    rfl

theorem quiet_worldStep (b : Bridgehead) (move : WorldMove) :
    ∀ mark ∈ (b.worldStep move).1, mark.isNoise id naming = false := by
  intro mark member
  obtain ⟨event, -, read⟩ := List.mem_filterMap.mp member
  obtain ⟨offer, -, rfl⟩ := Option.map_eq_some_iff.mp read
  rfl

theorem quiet_desert (b : Bridgehead) :
    ∀ mark ∈ b.desert.1, mark.isNoise id naming = false := by
  intro mark member
  obtain rfl | rest := List.mem_cons.mp member
  · rfl
  · exact b.quiet_conclude false mark rest

/-- Only noise shows noise. -/
theorem Stepping.quiet {b next : Bridgehead} {move : BridgeheadMove} {marks : List BridgeheadMark}
    (stepping : Stepping id naming b move marks next) (relevant : move.isNoise id naming = false) :
    ∀ mark ∈ marks, mark.isNoise id naming = false := by
  cases stepping with
  | world move => exact b.quiet_worldStep move
  | finished => exact b.quiet_conclude true
  | gone => exact b.retired.quiet_conclude false
  | deserted => exact b.quiet_desert
  | received _ channel data => exact List.forall_mem_singleton.mpr relevant
  | idle | letGo | collected | sent => exact List.forall_mem_nil _
  | _ => exact List.forall_mem_singleton.mpr rfl

/-- Runs that differ in messages that are not relayed, from states that differ in their counters. -/
theorem play_noise {b c : Bridgehead} (alike : b.deaf = c.deaf) (moves : List BridgeheadMove) :
    let (log, last) := play (step id naming) b moves
    let (calm, other) := play (step id naming) c (moves.filter (!·.isNoise id naming))
    log.filter (!·.isNoise id naming) = calm ∧ last.deaf = other.deaf := by
  induction moves generalizing b c with
  | nil => exact ⟨rfl, alike⟩
  | cons move moves ih =>
      cases noise : move.isNoise id naming with
      | true =>
          obtain ⟨silent, same⟩ := step_noise noise b
          rw [List.filter_cons_of_neg (by simp [noise])]
          simp only [play, List.filter_append, silent, List.nil_append]
          exact ih (same.trans alike)
      | false =>
          have next : muted (b.step id naming move) = muted (c.step id naming move) := by
            rw [← b.muted_step, alike, c.muted_step]
          obtain ⟨marks, same⟩ := Prod.ext_iff.mp next
          have marks : (b.step id naming move).1 = (c.step id naming move).1 := marks
          obtain ⟨later, last⟩ := ih same
          rw [List.filter_cons_of_pos (by simp [noise])]
          simp only [play, List.filter_append, marks, later]
          rw [List.filter_eq_self.mpr fun mark member => by
            simpa using (c.stepping move).quiet noise mark member]
          exact ⟨rfl, last⟩

end Bridgehead
end ChatRelay
