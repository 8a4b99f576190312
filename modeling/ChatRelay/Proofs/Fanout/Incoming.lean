import ChatRelay.Proofs.Fanout.Noise
import ChatRelay.Proofs.Fanout.Outgoing

/-! # What becomes of messages from other instances

Every message that arrives is relayed, or was sent by this instance, or cannot be read. Only the
last one that arrived can still be in the subscriber's hands, or have been in them at the end.
-/

namespace ChatRelay

namespace SubscriberPhase

/-- Whether the subscriber has no subscription. -/
def isOffline : SubscriberPhase → Bool
  | waking | pausing _ | connecting => true
  | _ => false

theorem isOffline_of_isIdle {phase : SubscriberPhase} (idle : phase.isIdle = true) :
    phase.isOffline = true := by
  cases phase with
  | waking | pausing => rfl
  | _ => exact nomatch idle

end SubscriberPhase

namespace HearMark

@[simp] def message? : HearMark → Option (String × Bytes)
  | received channel data => some (channel, data)
  | _ => none

@[simp] def handed? : HearMark → Option Envelope
  | handed envelope => some envelope
  | _ => none

@[simp] def relayed? : HearMark → Option Envelope
  | relayed envelope => some envelope
  | _ => none

/-- An envelope that the hub did not get, and whether it was handed. -/
@[simp] def missed? : HearMark → Option (Envelope × Bool)
  | missed envelope submitted => some (envelope, submitted)
  | _ => none

@[simp] def isFault : HearMark → Bool
  | returned (some _) => true
  | _ => false

/-- Whether the subscription stands afterwards, if that changes. -/
@[simp] def stands? : HearMark → Option Bool
  | listening => some true
  | returned _ => some false
  | _ => none

end HearMark

/-- Whether the subscription stands. -/
def stands (hears : List HearMark) : Bool :=
  hears.foldl (fun standing mark => mark.stands?.getD standing) false

theorem stands_snoc (hears : List HearMark) (mark : HearMark) :
    stands (hears ++ [mark]) = mark.stands?.getD (stands hears) := by
  simp [stands]

theorem stands_missed (hears : List HearMark) (envelopes : List Envelope) (submitted : Bool) :
    stands (hears ++ envelopes.map (.missed · submitted)) = stands hears := by
  induction envelopes using List.reverseRecOn with
  | nil => simp
  | append_singleton envelopes envelope ih =>
      rw [List.map_append, ← List.append_assoc]
      exact (stands_snoc ..).trans ih

/-- Where `mark` is in a list with one more entry. -/
theorem exists_split_snoc {motive : List HearMark → Prop} (hears : List HearMark)
    (last mark : HearMark) :
    (∃ before after, hears ++ [last] = before ++ mark :: after ∧ motive after) ↔
      (last = mark ∧ motive []) ∨
        ∃ before after, hears = before ++ mark :: after ∧ motive (after ++ [last]) := by
  constructor
  · rintro ⟨before, after, same, good⟩
    obtain rfl | ⟨after, other, rfl⟩ := after.eq_nil_or_concat'
    · obtain ⟨rfl, rfl⟩ := List.append_singleton_inj.mp same
      exact .inl ⟨rfl, good⟩
    · rw [← List.cons_append, ← List.append_assoc] at same
      obtain ⟨rfl, rfl⟩ := List.append_singleton_inj.mp same
      exact .inr ⟨before, after, rfl, good⟩
  · rintro (⟨rfl, good⟩ | ⟨before, after, rfl, good⟩)
    · exact ⟨hears, [], rfl, good⟩
    · exact ⟨before, after ++ [last], by simp, good⟩

/-- It stands from the moment it is had until the connection is over. -/
theorem stands_iff (hears : List HearMark) :
    stands hears = true ↔ ∃ before after, hears = before ++ .listening :: after ∧
      ∀ fault, .returned fault ∉ after := by
  induction hears using List.reverseRecOn with
  | nil => simp [stands]
  | append_singleton hears mark ih =>
      rw [stands_snoc, exists_split_snoc]
      cases mark with
      | listening => simp
      | returned fault =>
          constructor
          · exact nofun
          · rintro (⟨same, -⟩ | ⟨-, after, -, none⟩)
            · exact nomatch same
            · exact absurd (List.mem_append_right after (List.mem_singleton_self _)) (none fault)
      | _ => simp [ih]

namespace Subscriber

variable {id : InstanceId} {naming : ChannelNaming} {hears marks : List HearMark}
  {subscriber next : Subscriber} {holding holding' : Bool}

theorem underway_of_isIdle (idle : subscriber.phase.isIdle = true) : subscriber.underway = [] := by
  obtain ⟨phase⟩ := subscriber
  cases phase with
  | waking | pausing => rfl
  | _ => exact absurd idle Bool.false_ne_true

theorem underway_of_isOpen (isOpen : subscriber.phase.isOpen = true) :
    subscriber.underway = [] := by
  obtain ⟨phase⟩ := subscriber
  cases phase with
  | connecting | listening => rfl
  | _ => exact absurd isOpen Bool.false_ne_true

/-! ## The counters -/

structure Tallied (id : InstanceId) (naming : ChannelNaming) (hears : List HearMark)
    (subscriber : Subscriber) : Prop where
  received : subscriber.received = (hears.filterMap HearMark.message?).length
  relayed : subscriber.relayed = (hears.filterMap HearMark.relayed?).length
  skippedOwn : subscriber.skippedOwn =
    (hears.filterMap HearMark.message?).countP (isOwn id naming)
  malformed : subscriber.malformed =
    (hears.filterMap HearMark.message?).countP (isMalformed id naming)
  reconnects : subscriber.reconnects = hears.countP HearMark.isFault

theorem Tallied.step (tallied : Tallied id naming hears subscriber)
    (hearing : Hearing id naming subscriber holding marks next holding') :
    Tallied id naming (hears ++ marks) next := by
  obtain ⟨received, relayed, skippedOwn, malformed, reconnects⟩ := tallied
  cases hearing with
  | idle | dialled | handed | gone => constructor <;> simp [*]
  | listening _ connecting =>
      rw [listen_of_connecting connecting]
      constructor <;> simp [*]
  | failed _ cause jitter isOpen =>
      rw [fail_of_isOpen isOpen]
      constructor <;> simp [*]
  | received _ channel data listening =>
      obtain ⟨envelope, read, next⟩ | ⟨read, next⟩ | ⟨fault, read, next⟩ :=
        receive_cases id naming listening channel data
      all_goals
        rw [next]
        constructor <;> simp [isOwn, isMalformed, *]
  | relayed relaying =>
      rw [relay_of_relaying relaying]
      constructor <;> simp [*]
  | missed _ relaying =>
      rw [relay_of_relaying relaying]
      constructor <;> simp [*]
  | dropped => constructor <;> simp [Function.comp_def, *]

/-! ## The envelopes -/

/-- What arrived from other instances and is not relayed, and whether it was handed to the hub. -/
def unrelayed (subscriber : Subscriber) (holding : Bool) (hears : List HearMark) :
    List (Envelope × Bool) :=
  hears.filterMap HearMark.missed? ++ subscriber.underway.map (·, holding)

structure Passed (id : InstanceId) (naming : ChannelNaming) (hears : List HearMark)
    (subscriber : Subscriber) (holding : Bool) : Prop where
  arrived : (hears.filterMap HearMark.message?).filterMap (foreign? id naming) =
    hears.filterMap HearMark.relayed? ++ (subscriber.unrelayed holding hears).map Prod.fst
  handed : hears.filterMap HearMark.handed? =
    hears.filterMap HearMark.relayed? ++
      ((subscriber.unrelayed holding hears).filter Prod.snd).map Prod.fst
  single : (subscriber.unrelayed holding hears).length ≤ 1
  missed : hears.filterMap HearMark.missed? ≠ [] → subscriber.phase = .stopped
  holds : holding = true → subscriber.underway ≠ []

theorem unrelayed_of_free (free : subscriber.underway = []) :
    subscriber.unrelayed holding hears = hears.filterMap HearMark.missed? := by
  rw [unrelayed, free]
  exact List.append_nil _

theorem unrelayed_of_relaying {envelope : Envelope}
    (relaying : subscriber.phase = .relaying envelope) :
    subscriber.unrelayed holding hears =
      hears.filterMap HearMark.missed? ++ [(envelope, holding)] := by
  rw [unrelayed, underway, relaying]
  rfl

namespace Passed

theorem none_missed (passed : Passed id naming hears subscriber holding)
    (alive : subscriber.phase ≠ .stopped) : hears.filterMap HearMark.missed? = [] :=
  not_not.mp fun some => alive (passed.missed some)

theorem not_holding (passed : Passed id naming hears subscriber holding)
    (free : subscriber.underway = []) : holding = false :=
  Bool.eq_false_of_not_eq_true fun holds => passed.holds holds free

/-- A step in which no message arrives, nor is one handed or relayed. -/
theorem quiet (passed : Passed id naming hears subscriber holding)
    (messages : marks.filterMap HearMark.message? = [])
    (handed : marks.filterMap HearMark.handed? = [])
    (relayed : marks.filterMap HearMark.relayed? = [])
    (same : next.unrelayed holding' (hears ++ marks) = subscriber.unrelayed holding hears)
    (missed : (hears ++ marks).filterMap HearMark.missed? ≠ [] → next.phase = .stopped)
    (holds : holding' = true → next.underway ≠ []) :
    Passed id naming (hears ++ marks) next holding' := by
  constructor
  case arrived =>
    simp only [same, List.filterMap_append, messages, relayed, List.append_nil]
    exact passed.arrived
  case handed =>
    simp only [same, List.filterMap_append, handed, relayed, List.append_nil]
    exact passed.handed
  case single =>
    rw [same]
    exact passed.single
  case missed => exact missed
  case holds => exact holds

/-- Such a step of a subscriber that has no envelope before or after. -/
theorem free (passed : Passed id naming hears subscriber holding)
    (alive : subscriber.phase ≠ .stopped) (before : subscriber.underway = [])
    (after : next.underway = [])
    (messages : marks.filterMap HearMark.message? = [])
    (handed : marks.filterMap HearMark.handed? = [])
    (relayed : marks.filterMap HearMark.relayed? = [])
    (missed : marks.filterMap HearMark.missed? = []) :
    Passed id naming (hears ++ marks) next false := by
  have nothing := passed.none_missed alive
  apply passed.quiet messages handed relayed
  case same =>
    rw [unrelayed_of_free after, unrelayed_of_free before, List.filterMap_append, missed]
    exact List.append_nil _
  case missed =>
    rw [List.filterMap_append, nothing, missed]
    exact fun some => absurd rfl some
  case holds => exact nofun

theorem step (passed : Passed id naming hears subscriber holding)
    (hearing : Hearing id naming subscriber holding marks next holding') :
    Passed id naming (hears ++ marks) next holding' := by
  cases hearing with
  | idle => rwa [List.append_nil]
  | dialled _ idle =>
      have before := underway_of_isIdle idle
      rw [passed.not_holding before]
      exact passed.free (SubscriberPhase.ne_of_isIdle idle) before rfl rfl rfl rfl rfl
  | listening _ connecting =>
      have before := underway_of_isOpen (by rw [connecting]; rfl)
      rw [listen_of_connecting connecting, passed.not_holding before]
      exact passed.free (by simp [connecting]) before rfl rfl rfl rfl rfl
  | failed _ cause jitter isOpen =>
      have before := underway_of_isOpen isOpen
      rw [fail_of_isOpen isOpen, passed.not_holding before]
      exact passed.free (SubscriberPhase.ne_of_isOpen isOpen) before rfl rfl rfl rfl rfl
  | received _ channel data listening =>
      -- It listens, so it had no envelope; whether it has one now depends on the message alone.
      have before := underway_of_isOpen (by rw [listening]; rfl)
      have nothing := passed.none_missed (by simp [listening])
      obtain rfl := passed.not_holding before
      obtain ⟨arrived, handed, -, -, -⟩ := passed
      rw [unrelayed_of_free before, nothing] at arrived handed
      obtain ⟨envelope, read, next⟩ | ⟨read, next⟩ | ⟨fault, read, next⟩ :=
        receive_cases id naming listening channel data
      all_goals
        rw [next]
        constructor <;> simp [unrelayed, underway, List.filterMap_cons, foreign?, *]
  | handed relaying =>
      have nothing := passed.none_missed (by simp [relaying])
      obtain ⟨arrived, handed, -, -, -⟩ := passed
      rw [unrelayed_of_relaying relaying, nothing] at arrived handed
      constructor <;> simp [unrelayed, underway, List.filterMap_cons, *]
  | relayed relaying =>
      have nothing := passed.none_missed (by simp [relaying])
      obtain ⟨arrived, handed, -, -, -⟩ := passed
      rw [unrelayed_of_relaying relaying, nothing] at arrived handed
      rw [relay_of_relaying relaying]
      constructor <;> simp [unrelayed, underway, List.filterMap_cons, *]
  | gone _ idle =>
      exact passed.free (SubscriberPhase.ne_of_isIdle idle) (underway_of_isIdle idle)
        rfl rfl rfl rfl rfl
  | missed _ relaying =>
      rw [relay_of_relaying relaying]
      apply passed.quiet rfl rfl rfl
      case same =>
        rw [unrelayed_of_relaying relaying, unrelayed_of_free rfl, List.filterMap_append]
        rfl
      case missed => exact fun _ => rfl
      case holds => simp
  | dropped =>
      apply passed.quiet
      case same =>
        rw [unrelayed_of_free rfl, List.filterMap_append, List.filterMap_map]
        exact congrArg _ (congrFun List.filterMap_eq_map _)
      case missed => exact fun _ => rfl
      case holds => simp
      all_goals simp [Function.comp_def]

end Passed

/-! ## The connection -/

structure Connected (hears : List HearMark) (subscriber : Subscriber) : Prop where
  stands : subscriber.connected = stands hears
  offline : subscriber.phase.isOffline = true → subscriber.connected = false

theorem Connected.step (connected : Connected hears subscriber)
    (hearing : Hearing id naming subscriber holding marks next holding') :
    Connected (hears ++ marks) next := by
  obtain ⟨same, offline⟩ := connected
  cases hearing with
  | idle => exact (List.append_nil hears).symm ▸ ⟨same, offline⟩
  | dialled _ idle =>
      have before := offline (SubscriberPhase.isOffline_of_isIdle idle)
      constructor
      case stands =>
        rw [stands_snoc]
        exact same
      case offline => exact fun _ => before
  | listening _ connecting =>
      rw [listen_of_connecting connecting]
      constructor
      case stands => rw [stands_snoc]; rfl
      case offline => exact nofun
  | failed _ cause jitter isOpen =>
      rw [fail_of_isOpen isOpen]
      constructor
      case stands => rw [stands_snoc]; rfl
      case offline => exact fun _ => rfl
  | received _ channel data listening =>
      obtain ⟨envelope, -, next⟩ | ⟨-, next⟩ | ⟨fault, -, next⟩ :=
        receive_cases id naming listening channel data
      all_goals
        rw [next]
        constructor
        case stands => rw [stands_snoc]; exact same
        case offline => simp [SubscriberPhase.isOffline, listening]
  | handed relaying =>
      constructor
      case stands => rw [stands_snoc]; exact same
      case offline => exact offline
  | relayed relaying =>
      rw [relay_of_relaying relaying]
      constructor
      case stands => rw [stands_snoc]; exact same
      case offline => exact nofun
  | gone =>
      rw [List.append_nil]
      constructor
      case stands => exact same
      case offline => exact nofun
  | missed _ relaying =>
      rw [relay_of_relaying relaying]
      constructor
      case stands => simp [ChatRelay.stands]
      case offline => exact fun _ => rfl
  | dropped =>
      constructor
      case stands =>
        rw [stands_missed]
        exact same
      case offline => exact nofun

end Subscriber

theorem Hearing.stays_stopped {id : InstanceId} {naming : ChannelNaming} {marks : List HearMark}
    {subscriber next : Subscriber} {holding holding' : Bool}
    (hearing : Hearing id naming subscriber holding marks next holding')
    (stopped : subscriber.phase = .stopped) :
    next.phase = .stopped ∧ next.connected = subscriber.connected := by
  cases hearing with
  | idle | dropped | gone => exact ⟨by first | exact stopped | rfl, rfl⟩
  | dialled _ idle => exact absurd stopped (SubscriberPhase.ne_of_isIdle idle)
  | failed _ _ _ isOpen => exact absurd stopped (SubscriberPhase.ne_of_isOpen isOpen)
  | handed relaying => exact ⟨stopped, rfl⟩
  | listening _ alive => exact nomatch alive.symm.trans stopped
  | received _ _ _ alive => exact nomatch alive.symm.trans stopped
  | relayed alive => exact nomatch alive.symm.trans stopped
  | missed _ alive => exact nomatch alive.symm.trans stopped

namespace Bridgehead

variable {id : InstanceId} {naming : ChannelNaming}

/-- What every step keeps of the subscriber. -/
structure Heard (id : InstanceId) (naming : ChannelNaming) (log : List BridgeheadMark)
    (b : Bridgehead) : Prop where
  tallied : b.bridge.subscriber.Tallied id naming (hears log)
  passed : b.bridge.subscriber.Passed id naming (hears log) b.holding
  connected : b.bridge.subscriber.Connected (hears log)
  abandoned : Abandoned log →
    b.bridge.subscriber.phase = .stopped ∧ b.bridge.subscriber.connected = false

theorem Heard.step {log : List BridgeheadMark} {b : Bridgehead} (heard : Heard id naming log b)
    (move : BridgeheadMove) :
    Heard id naming (log ++ (b.step id naming move).1) (b.step id naming move).2 := by
  obtain ⟨tallied, passed, connected, abandoned⟩ := heard
  have stepping : Stepping id naming b move _ _ := b.stepping move
  have hearing := stepping.hearing
  constructor
  case tallied =>
    rw [hears_append]
    exact tallied.step hearing
  case passed =>
    rw [hears_append]
    exact passed.step hearing
  case connected =>
    rw [hears_append]
    exact connected.step hearing
  case abandoned =>
    intro ended
    obtain before | now := abandoned_append.mp ended
    · -- A subscriber that has stopped does not connect again.
      obtain ⟨stopped, off⟩ := abandoned before
      obtain ⟨still, same⟩ := hearing.stays_stopped stopped
      exact ⟨still, same.trans off⟩
    · obtain ⟨-, ⟨idle, steps⟩ | ⟨envelope, relaying, steps⟩⟩ := stepping.abandoned_cases now
      · rw [steps]
        exact ⟨rfl, connected.offline (SubscriberPhase.isOffline_of_isIdle idle)⟩
      · rw [steps]
        simp [desert, withSubscriber, Subscriber.relay_of_relaying relaying]

theorem heard (id : InstanceId) (naming : ChannelNaming) (node : Node)
    (commandCapacity capacity : Nat) (attached held : Bool) (moves : List BridgeheadMove) :
    let (log, last) :=
      play (step id naming) (start node commandCapacity capacity attached held) moves
    Heard id naming log last := by
  refine play_induction (motive := Heard id naming) (fun _ _ move heard => heard.step move) ?_ moves
  constructor
  case tallied => exact ⟨rfl, rfl, rfl, rfl, rfl⟩
  case passed => exact ⟨rfl, rfl, Nat.zero_le _, nofun, nofun⟩
  case connected => exact ⟨rfl, fun _ => rfl⟩
  case abandoned => exact fun ⟨_, never⟩ => nomatch never

/-- The messages that arrived. -/
def messages (log : List BridgeheadMark) : List (String × Bytes) :=
  (hears log).filterMap HearMark.message?

/-- The envelopes that were submitted to the hub. -/
def handings (log : List BridgeheadMark) : List Envelope := (hears log).filterMap HearMark.handed?

/-- Those that the hub accepted. -/
def relays (log : List BridgeheadMark) : List Envelope := (hears log).filterMap HearMark.relayed?

/-- What the subscriber does with the messages that arrive, and what it counts. -/
structure Relayed (id : InstanceId) (naming : ChannelNaming) (log : List BridgeheadMark)
    (b : Bridgehead) : Prop where
  received : b.bridge.status.received = (messages log).length
  relayed : b.bridge.status.relayed = (relays log).length
  skippedOwn : b.bridge.status.skippedOwn = (messages log).countP (isOwn id naming)
  malformed : b.bridge.status.malformed = (messages log).countP (isMalformed id naming)
  reconnects : b.bridge.status.reconnects = (hears log).countP HearMark.isFault
  /-- While it waits, be it for a connection or for a message, exactly the messages of other
      instances have been submitted, each once and in their order, and every message is accounted
      for. -/
  waiting : b.bridge.subscriber.phase.isIdle = true ∨ b.bridge.subscriber.phase.isOpen = true →
    handings log = (messages log).filterMap (foreign? id naming) ∧ relays log = handings log ∧
      b.bridge.status.received = b.bridge.status.relayed + b.bridge.status.skippedOwn +
        b.bridge.status.malformed
  /-- While it relays an envelope, that one is all that is missing. -/
  relaying : ∀ envelope, b.bridge.subscriber.phase = .relaying envelope →
    relays log ++ [envelope] = (messages log).filterMap (foreign? id naming) ∧
      handings log = relays log ++ (if b.holding then [envelope] else []) ∧
      b.bridge.status.received = b.bridge.status.relayed + b.bridge.status.skippedOwn +
        b.bridge.status.malformed + 1
  /-- In the end at most one is missing. The publisher had come to its end, or there was no hub. -/
  stopped : b.bridge.subscriber.phase = .stopped → ∃ missed : List (Envelope × Bool),
    relays log ++ missed.map Prod.fst = (messages log).filterMap (foreign? id naming) ∧
      handings log = relays log ++ (missed.filter Prod.snd).map Prod.fst ∧
      b.bridge.status.received = b.bridge.status.relayed + b.bridge.status.skippedOwn +
        b.bridge.status.malformed + missed.length ∧
      missed.length ≤ 1 ∧ (endings (posts log) = [(true, [])] ∨ Abandoned log)
  /-- If the subscriber returned, there is no hub. -/
  returned : Abandoned log → b.Deserted ∧ b.bridge.status.connected = false
  /-- It is connected since a subscription was had, until that connection is over. -/
  connected : b.bridge.status.connected = true ↔
    ∃ before after, hears log = before ++ .listening :: after ∧ ∀ fault, .returned fault ∉ after

theorem Heard.relayed {capacity : Nat} {log : List BridgeheadMark} {b : Bridgehead}
    (heard : Heard id naming log b) (orderly : Orderly id naming capacity log b) :
    Relayed id naming log b := by
  obtain ⟨tallied, passed, connected, abandoned⟩ := heard
  have total : b.bridge.status.received =
      b.bridge.status.relayed + b.bridge.status.skippedOwn + b.bridge.status.malformed +
        (b.bridge.subscriber.unrelayed b.holding (hears log)).length := by
    have kinds := length_messages id naming (messages log)
    have arrived := congrArg List.length passed.arrived
    rw [List.length_append, List.length_map] at arrived
    have received : b.bridge.status.received = _ := tallied.received
    have relayed : b.bridge.status.relayed = _ := tallied.relayed
    have skippedOwn : b.bridge.status.skippedOwn = _ := tallied.skippedOwn
    have malformed : b.bridge.status.malformed = _ := tallied.malformed
    unfold messages at kinds
    omega
  constructor
  case received => exact tallied.received
  case relayed => exact tallied.relayed
  case skippedOwn => exact tallied.skippedOwn
  case malformed => exact tallied.malformed
  case reconnects => exact tallied.reconnects
  case waiting =>
    intro waits
    have nothing : b.bridge.subscriber.unrelayed b.holding (hears log) = [] := by
      cases waits with
      | inl idle =>
          rw [Subscriber.unrelayed_of_free (Subscriber.underway_of_isIdle idle)]
          exact passed.none_missed (SubscriberPhase.ne_of_isIdle idle)
      | inr isOpen =>
          rw [Subscriber.unrelayed_of_free (Subscriber.underway_of_isOpen isOpen)]
          exact passed.none_missed (SubscriberPhase.ne_of_isOpen isOpen)
    obtain ⟨arrived, handed, -, -, -⟩ := passed
    rw [nothing] at arrived handed total
    have arrived : (messages log).filterMap (foreign? id naming) = relays log :=
      arrived.trans (List.append_nil _)
    have handed : handings log = relays log := handed.trans (List.append_nil _)
    exact ⟨handed.trans arrived.symm, handed.symm, total⟩
  case relaying =>
    intro envelope relaying
    have one : b.bridge.subscriber.unrelayed b.holding (hears log) = [(envelope, b.holding)] := by
      rw [Subscriber.unrelayed_of_relaying relaying, passed.none_missed (by simp [relaying])]
      rfl
    obtain ⟨arrived, handed, -, -, -⟩ := passed
    rw [one] at arrived handed total
    refine ⟨arrived.symm, handed.trans ?_, total⟩
    cases b.holding <;> rfl
  case stopped =>
    intro stopped
    refine ⟨_, passed.arrived.symm, passed.handed, total, passed.single, ?_⟩
    obtain ⟨-, -, -, drained, lost, one, nothing⟩ :=
      orderly.sound.closed (orderly.closed.mpr stopped)
    cases drained with
    | true => exact .inl (by rw [one, nothing rfl])
    | false => exact .inr (abandoned_of_endings (one ▸ List.mem_singleton_self _))
  case returned =>
    intro ended
    exact ⟨orderly.deserted ended, (abandoned ended).2⟩
  case connected =>
    rw [← stands_iff, ← connected.stands]
    rfl

/-- However connections and messages come and go, the messages of other instances are relayed and
    all are counted; and without the others everything but the counters is the same. -/
theorem messages_of_others_are_relayed (id : InstanceId) (naming : ChannelNaming) (node : Node)
    (commandCapacity capacity : Nat) (attached held : Bool) (moves : List BridgeheadMove) :
    let first := start node commandCapacity capacity attached held
    let (log, last) := play (step id naming) first moves
    let (calm, other) := play (step id naming) first (moves.filter (!·.isNoise id naming))
    Relayed id naming log last ∧ log.filter (!·.isNoise id naming) = calm ∧
      last.deaf = other.deaf := by
  refine ⟨?_, play_noise rfl moves⟩
  have orderly := orderly id naming node commandCapacity capacity attached held moves
  exact (heard id naming node commandCapacity capacity attached held moves).relayed orderly

end Bridgehead
end ChatRelay
