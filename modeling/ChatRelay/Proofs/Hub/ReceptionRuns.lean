import ChatRelay.Proofs.Hub.Reception
import Mathlib.Data.List.Nodup

/-! # Runs of a hub with its callers

What every move of a hub and its callers preserves, of all that was seen before: of the channel, of
the calls, of what is processed, of what that comes to without a channel, of what everybody sees of
the counters, and of the answers.
-/

namespace ChatRelay.Reception

/-- Every mark of a log fits what was seen before it. -/
def Each (fits : List ReceptionMark → ReceptionMark → Prop) (log : List ReceptionMark) : Prop :=
  ∀ before mark after, log = before ++ mark :: after → fits before mark

section

variable {fits : List ReceptionMark → ReceptionMark → Prop} {log later : List ReceptionMark}
  {mark : ReceptionMark}

@[simp] theorem each_nil : Each fits [] := by
  intro before mark after split
  simp at split

@[simp] theorem each_cons :
    Each fits (mark :: log) ↔ fits [] mark ∧ Each (fun before => fits (mark :: before)) log := by
  constructor
  · intro each
    exact ⟨each [] mark log rfl, fun before other after split =>
      each (mark :: before) other after (by rw [split, List.cons_append])⟩
  · rintro ⟨first, each⟩ before other after split
    cases before with
    | nil =>
        cases split
        exact first
    | cons head before =>
        cases split
        exact each before other after rfl

theorem each_append :
    Each fits (log ++ later) ↔ Each fits log ∧ Each (fun before => fits (log ++ before)) later := by
  induction log generalizing fits with
  | nil => simp
  | cons mark log ih => simp only [List.cons_append, each_cons, ih, and_assoc]

end

/-! A hub without a channel. -/

section

variable (log later : List ReceptionMark)

/-- The hub that was sent the same requests one by one. -/
abbrev serialHub : Hub := (serial log).2.1

theorem serial_append : serial (log ++ later) =
    ((serial log).1 ++ (play Hub.turn (serial log).2 (turns later)).1,
      (play Hub.turn (serial log).2 (turns later)).2) := by
  simp only [serial, turns_append, play_append]

theorem serial_grows : (serialHub log).stats.Grows (serialHub (log ++ later)).stats := by
  rw [serialHub, serialHub, serial_append]
  exact Hub.play_turn_grows _ _

/-- Only requests change the hub. -/
theorem serialHub_unhandled {later : List ReceptionMark} (unhandled : handled later = []) :
    serialHub (log ++ later) = serialHub log := by
  have same (state : Hub × Queues) : (play Hub.turn state (turns later)).2.1 = state.1 := by
    induction later generalizing state with
    | nil => rfl
    | cons mark later ih =>
        rw [handled_cons, List.append_eq_nil_iff] at unhandled
        have rest (change : Queues → Queues) := ih unhandled.2 (state.1, change state.2)
        cases mark with
        | handled => simp at unhandled
        | changed change => simpa [play, Hub.turn] using rest change
        | _ => simpa using rest id
  rw [serialHub, serialHub, serial_append, same]

theorem counted_serial : (serialHub log).Counted := Hub.counted_play_turn (turns log)

end

/-! What every move preserves. -/

/-- The channel holds the requests of the line, and whoever holds the hub is a caller. -/
structure Kept (capacity : Nat) (reception : Reception) : Prop where
  room : reception.loop.capacity = max capacity 1
  pending : reception.loop.pending = reception.line.map Call.command
  bounded : reception.line.length ≤ max capacity 1
  handles : reception.loop.handles = reception.callers.size
  ended : reception.loop.running = false → reception.line = []

/-- Every caller goes on with its next call when the one before has come to its end. -/
structure Called (log : List ReceptionMark) (reception : Reception) : Prop where
  tickets : (calls log).map Call.ticket = List.range reception.tickets
  invoked : Each (fun before mark => ∀ call, mark = .accepted call → call ∈ calls before) log
  made : ∀ call, call ∈ accepted log ∨ call ∈ failed log → call ∈ calls log
  once : (accepted log).Nodup
  apart : ∀ call ∈ failed log, call ∉ accepted log
  ordered : ∀ caller, ((accepted log).filter (·.caller = caller)).Sublist
    ((calls log).filter (·.caller = caller))
  asking : ∀ (caller : Nat) (call : Call), reception.callers[caller]? = some (.asking call) →
    call.caller = caller ∧ call ∉ accepted log ∧ call ∉ failed log ∧
      ∃ earlier, (calls log).filter (·.caller = caller) = earlier ++ [call] ∧
        ((accepted log).filter (·.caller = caller)).Sublist earlier
  awaiting : ∀ (caller : Nat) (call : Call), reception.callers[caller]? = some (.awaiting call) →
    call ∈ accepted log

/-- The requests are processed in their order, and none is left out. -/
structure Served (log : List ReceptionMark) (reception : Reception) : Prop where
  order : handled log ++ reception.line <+: accepted log
  running : reception.loop.running = true →
    ReceptionMark.finished ∉ log ∧ handled log ++ reception.line = accepted log
  ended : reception.loop.running = false →
    ReceptionMark.finished ∈ log ∨ ReceptionMark.stopped ∈ log
  finished : ReceptionMark.finished ∈ log → handled log = accepted log

/-- The hub is as good as one without a channel. -/
structure Replayed (log : List ReceptionMark) (reception : Reception) : Prop where
  events : Each (fun before mark => ∀ call fanout events, mark = .handled call fanout events →
    events = (Hub.turn (serial before).2 (.process call.command fanout)).1) log
  told : reports log = (serial log).1
  state : reception.loop.running = true → (serial log).2 = (reception.loop.hub, reception.queues)
  stats : (serialHub log).stats = reception.loop.hub.stats

/-- What everybody sees of the counters is what was counted. Numbers of rooms and clients can be
    out of date, but not after a request that changes neither. -/
structure Shown (log : List ReceptionMark) (reception : Reception) : Prop where
  totals : reception.shown = { reception.loop.hub.stats with
    rooms := reception.shown.rooms, clients := reception.shown.clients }
  late : reception.shown = reception.loop.hub.stats ∨
    ∃ earlier call, handled log = earlier ++ [call] ∧ call.operation ≠ .snapshot

/-- Whoever hears an answer hears that of its own call. -/
structure Answered (log : List ReceptionMark) (reception : Reception) : Prop where
  answers : ∀ ticket snapshot, (ticket, snapshot) ∈ reception.answers →
    ∃ call fanout, call.ticket = ticket ∧
      ReceptionMark.handled call fanout [.answered ticket snapshot] ∈ log
  heard : ∀ call snapshot, ReceptionMark.heard call (.ok snapshot) ∈ log →
    ∃ fanout, ReceptionMark.handled call fanout [.answered call.ticket snapshot] ∈ log

section

variable {capacity : Nat} {log marks : List ReceptionMark} {reception next : Reception}

theorem size_turnTo {caller : Nat} (found : caller ∈ reception.callers) (doing : Caller) :
    (reception.turnTo caller doing).callers.size = reception.callers.size := by
  rw [turnTo, Std.ExtTreeMap.size_insert, if_pos (Std.ExtTreeMap.contains_iff_mem.mpr found)]

theorem mem_of_found {caller : Nat} {doing : Caller}
    (found : reception.callers[caller]? = some doing) : caller ∈ reception.callers :=
  Std.ExtTreeMap.mem_iff_isSome_getElem?.mpr (by rw [found]; rfl)

namespace Kept

theorem start (capacity : Nat) (attached : Bool) : Kept capacity (.start capacity attached) where
  room := rfl
  pending := rfl
  bounded := Nat.zero_le _
  handles := rfl
  ended _ := rfl

theorem moved (kept : Kept capacity reception) (moved : reception.Moved marks next) :
    Kept capacity next := by
  obtain ⟨room, pending, bounded, handles, ended⟩ := kept
  have same {caller : Nat} {doing : Caller} (found : reception.callers[caller]? = some doing)
      (later : Caller) : reception.loop.handles = (reception.turnTo caller later).callers.size :=
    handles.trans (size_turnTo (mem_of_found found) later).symm
  cases moved with
  | idle | counted | changed => exact ⟨room, pending, bounded, handles, ended⟩
  | acquired upgrade new =>
      refine ⟨room, pending, bounded, ?_, ended⟩
      simp [turnTo, EventLoop.retain, Std.ExtTreeMap.size_insert, new, handles]
  | released found =>
      refine ⟨room, pending, bounded, ?_, ended⟩
      simp [EventLoop.drop, Std.ExtTreeMap.size_erase, mem_of_found found, handles]
  | called found | failed found | left found | heard found =>
      exact ⟨room, pending, bounded, same found _, ended⟩
  | @accepted caller call found running free =>
      rw [pending, room, List.length_map] at free
      refine ⟨room, ?_, ?_, same found _, fun stopped => ?_⟩
      · simp [turnTo, pending]
      · rw [turnTo, List.length_append]
        exact free
      · exact nomatch running.symm.trans stopped
  | handled running next =>
      rw [next] at bounded
      exact ⟨room, rfl, Nat.le_of_succ_le bounded, handles,
        fun stopped => nomatch running.symm.trans stopped⟩
  | finished | stopped => exact ⟨room, rfl, Nat.zero_le _, handles, fun _ => rfl⟩

end Kept

namespace Called

theorem start (capacity : Nat) (attached : Bool) : Called [] (.start capacity attached) where
  tickets := rfl
  invoked := each_nil
  made call := by simp
  once := List.nodup_nil
  apart := nofun
  ordered _ := .refl _
  asking caller call found := by
    simp only [Reception.start, Std.ExtTreeMap.getElem?_insert] at found
    split at found <;> simp at found
  awaiting caller call found := by
    simp only [Reception.start, Std.ExtTreeMap.getElem?_insert] at found
    split at found <;> simp at found

theorem invoked_append (called : Called log reception) (silent : accepted marks = []) :
    Each (fun before mark => ∀ call, mark = .accepted call → call ∈ calls before) (log ++ marks) := by
  refine each_append.mpr ⟨called.invoked, fun before mark after split call same => ?_⟩
  simp [split, same] at silent

/-- Nothing becomes of any call. -/
theorem quiet (called : Called log reception) (uncalled : calls marks = [])
    (unaccepted : accepted marks = []) (unfailed : failed marks = [])
    (tickets : next.tickets = reception.tickets)
    (busy : ∀ (caller : Nat) (doing : Caller), next.callers[caller]? = some doing →
      doing = .idle ∨ reception.callers[caller]? = some doing) :
    Called (log ++ marks) next := by
  constructor
  case tickets => simpa [uncalled, tickets] using called.tickets
  case invoked => exact called.invoked_append unaccepted
  case made => simpa [uncalled, unaccepted, unfailed] using called.made
  case once => simpa [unaccepted] using called.once
  case apart => simpa [unaccepted, unfailed] using called.apart
  case ordered => simpa [uncalled, unaccepted] using called.ordered
  case asking =>
    intro caller call found
    rcases busy caller _ found with idle | before
    · exact nomatch idle
    · simpa [uncalled, unaccepted, unfailed] using called.asking caller call before
  case awaiting =>
    intro caller call found
    rcases busy caller _ found with idle | before
    · exact nomatch idle
    · simpa [unaccepted] using called.awaiting caller call before

theorem stored_turnTo {caller other : Nat} {doing found : Caller}
    (stored : (reception.turnTo caller doing).callers[other]? = some found) :
    other = caller ∧ found = doing ∨ other ≠ caller ∧ reception.callers[other]? = some found := by
  simp only [turnTo, Std.ExtTreeMap.getElem?_insert] at stored
  grind

/-- A caller is told that its call has failed, or does not wait for it any more. -/
theorem fail (called : Called log reception) {caller : Nat} {call : Call}
    (found : reception.callers[caller]? = some (.asking call)) (uncalled : calls marks = [])
    (unaccepted : accepted marks = []) (lost : failed marks = [call]) :
    Called (log ++ marks) ((reception.lose call).turnTo caller .idle) := by
  obtain ⟨own, strange, -, earlier, last, before⟩ := called.asking caller call found
  have made : call ∈ calls log := by
    have listed : call ∈ (calls log).filter (·.caller = caller) := by simp [last]
    exact (List.mem_filter.mp listed).1
  constructor
  case tickets => simpa [uncalled, turnTo, lose] using called.tickets
  case invoked => exact called.invoked_append unaccepted
  case made =>
    intro other made'
    have := called.made other
    simp only [calls_append, accepted_append, failed_append, uncalled, unaccepted, lost,
      List.append_nil, List.mem_append, List.mem_singleton] at made' ⊢
    grind
  case once => simpa [unaccepted] using called.once
  case apart =>
    intro other listed
    have := called.apart other
    simp only [accepted_append, failed_append, unaccepted, lost, List.append_nil, List.mem_append,
      List.mem_singleton] at listed ⊢
    grind
  case ordered => simpa [uncalled, unaccepted] using called.ordered
  case asking =>
    intro other call' stored
    rcases stored_turnTo stored with ⟨-, same⟩ | ⟨apart, stored⟩
    · exact nomatch same
    · have asking := called.asking other call' stored
      have differs : call' ≠ call := fun same => apart (asking.1.symm.trans (same ▸ own))
      simpa [uncalled, unaccepted, lost, differs] using asking
  case awaiting =>
    intro other call' stored
    rcases stored_turnTo stored with ⟨-, same⟩ | ⟨-, stored⟩
    · exact nomatch same
    · simpa [unaccepted] using called.awaiting other call' stored

theorem moved (called : Called log reception) (moved : reception.Moved marks next) :
    Called (log ++ marks) next := by
  cases moved with
  | idle | counted | finished | stopped | changed | handled =>
      exact called.quiet rfl rfl rfl rfl fun caller doing found => .inr found
  | acquired | left | heard =>
      refine called.quiet rfl rfl rfl rfl fun caller doing found => ?_
      rcases stored_turnTo found with ⟨-, rfl⟩ | ⟨-, before⟩
      · exact .inl rfl
      · exact .inr before
  | released found =>
      refine called.quiet rfl rfl rfl rfl fun caller doing found => ?_
      simp only [Std.ExtTreeMap.getElem?_erase] at found
      split at found
      · exact nomatch found
      · exact .inr found
  | @called caller call found own ticket =>
      have new : call ∉ calls log := fun listed => by
        have ticketed := List.mem_map_of_mem (f := Call.ticket) listed
        simp [called.tickets, ticket] at ticketed
      constructor
      case tickets => simp [called.tickets, ticket, turnTo, List.range_succ]
      case invoked => exact each_append.mpr ⟨called.invoked, by simp⟩
      case made =>
        intro call made
        simpa using .inl (called.made call (by simpa using made))
      case once => simpa using called.once
      case apart => simpa using called.apart
      case ordered =>
        intro other
        simpa using (called.ordered other).trans (List.sublist_append_left ..)
      case asking =>
        intro other call' stored
        rcases stored_turnTo stored with ⟨rfl, same⟩ | ⟨apart, before⟩
        · cases same
          refine ⟨own, ?_, ?_, (calls log).filter (·.caller = other), ?_, ?_⟩
          · simpa using fun listed => new (called.made call (.inl listed))
          · simpa using fun listed => new (called.made call (.inr listed))
          · simp [own]
          · simpa using called.ordered other
        · have strange : ¬ call.caller = other := fun same => apart (same.symm.trans own)
          simpa [strange] using called.asking other call' before
      case awaiting =>
        intro other call' stored
        rcases stored_turnTo stored with ⟨-, same⟩ | ⟨-, before⟩
        · exact nomatch same
        · simpa using called.awaiting other call' before
  | @accepted caller call found running free =>
      obtain ⟨own, unaccepted, unfailed, earlier, last, before⟩ := called.asking caller call found
      have made : call ∈ calls log := by
        have listed : call ∈ (calls log).filter (·.caller = caller) := by simp [last]
        exact (List.mem_filter.mp listed).1
      constructor
      case tickets => simpa [turnTo] using called.tickets
      case invoked => exact each_append.mpr ⟨called.invoked, by simpa using made⟩
      case made =>
        intro other made'
        have := called.made other
        simp at made' ⊢
        grind
      case once => simpa [List.nodup_append, unaccepted] using ⟨called.once, by grind⟩
      case apart =>
        intro other listed
        have := called.apart other
        simp at listed ⊢
        grind
      case ordered =>
        intro other
        by_cases same : call.caller = other
        · obtain rfl : caller = other := own.symm.trans same
          simpa [own, last] using before
        · simpa [same] using called.ordered other
      case asking =>
        intro other call' stored
        rcases stored_turnTo stored with ⟨-, same⟩ | ⟨apart, before⟩
        · simp only [Call.afterwards] at same
          split at same <;> exact nomatch same
        · have asking := called.asking other call' before
          have strange : ¬ call.caller = other := fun same => apart (same.symm.trans own)
          have differs : call' ≠ call := fun same => strange (same ▸ asking.1)
          simpa [strange, differs] using asking
      case awaiting =>
        intro other call' stored
        rcases stored_turnTo stored with ⟨-, same⟩ | ⟨-, before⟩
        · simp only [Call.afterwards] at same
          split at same <;> cases same
          simp
        · have listed := called.awaiting other call' before
          simp [listed]
  | failed found kind =>
      rcases kind with rfl | rfl <;> exact called.fail found rfl rfl rfl

end Called

namespace Served

theorem start (capacity : Nat) (attached : Bool) : Served [] (.start capacity attached) where
  order := List.prefix_rfl
  running _ := ⟨List.not_mem_nil, rfl⟩
  ended stopped := nomatch stopped
  finished := nofun

/-- The channel stays as it is. -/
theorem quiet (served : Served log reception) (unhandled : handled marks = [])
    (unaccepted : accepted marks = []) (unfinished : ReceptionMark.finished ∉ marks)
    (running : next.loop.running = reception.loop.running) (line : next.line = reception.line) :
    Served (log ++ marks) next := by
  constructor
  case order => simpa [unhandled, unaccepted, line] using served.order
  case running => simpa [unhandled, unaccepted, unfinished, running, line] using served.running
  case ended =>
    intro stopped
    rcases served.ended (running ▸ stopped) with finished | stopped
    · exact .inl (List.mem_append_left _ finished)
    · exact .inr (List.mem_append_left _ stopped)
  case finished => simpa [unhandled, unaccepted, unfinished] using served.finished

theorem moved (served : Served log reception) (moved : reception.Moved marks next) :
    Served (log ++ marks) next := by
  cases moved with
  | idle | counted | changed | acquired | released | called | left | heard =>
      exact served.quiet rfl rfl (by simp) rfl rfl
  | failed found kind =>
      rcases kind with rfl | rfl <;> exact served.quiet rfl rfl (by simp) rfl rfl
  | @accepted caller call found running =>
      obtain ⟨unfinished, all⟩ := served.running running
      have line : handled log ++ (reception.line ++ [call]) = accepted log ++ [call] := by
        rw [← all, List.append_assoc]
      constructor
      case order => simp [turnTo, line]
      case running => exact fun _ => by simp [turnTo, unfinished, line]
      case ended => exact fun stopped => nomatch running.symm.trans stopped
      case finished => exact fun finished => absurd finished (by simp [unfinished])
  | handled running next =>
      obtain ⟨unfinished, all⟩ := served.running running
      rw [next] at all
      constructor
      case order => simp [← all]
      case running => exact fun _ => by simp [unfinished, ← all]
      case ended => exact fun stopped => nomatch running.symm.trans stopped
      case finished => exact fun finished => absurd finished (by simp [unfinished])
  | finished running empty =>
      obtain ⟨unfinished, all⟩ := served.running running
      rw [empty, List.append_nil] at all
      constructor
      case order => simp [Reception.ended, all]
      case running => exact fun running => nomatch running
      case ended => simp
      case finished => simp [all]
  | stopped running =>
      obtain ⟨unfinished, all⟩ := served.running running
      constructor
      case order => simp [Reception.ended, ← all]
      case running => exact fun running => nomatch running
      case ended => simp
      case finished => simp [unfinished]

end Served

namespace Replayed

theorem start (capacity : Nat) (attached : Bool) : Replayed [] (.start capacity attached) where
  events := each_nil
  told := rfl
  state _ := rfl
  stats := rfl

/-- The hub does nothing. -/
theorem quiet (replayed : Replayed log reception) (unhandled : handled marks = [])
    (silent : turns marks = []) (unreported : reports marks = [])
    (running : next.loop.running = true → reception.loop.running = true ∧
      next.loop.hub = reception.loop.hub ∧ next.queues = reception.queues)
    (stats : next.loop.hub.stats = reception.loop.hub.stats) :
    Replayed (log ++ marks) next := by
  have same : serial (log ++ marks) = serial log := by
    rw [serial_append, silent]
    simp [play]
  constructor
  case events =>
    refine each_append.mpr ⟨replayed.events, fun before mark after split call _ _ same => ?_⟩
    simp [split, same] at unhandled
  case told => simpa [same, unreported] using replayed.told
  case state =>
    intro runs
    obtain ⟨running, hub, queues⟩ := running runs
    rw [same, hub, queues, replayed.state running]
  case stats => rw [serialHub, same, stats, replayed.stats]

/-- Something happens to the outbound queues. -/
theorem change (replayed : Replayed log reception) (unhandled : handled marks = [])
    {change : Queues → Queues} (turned : turns marks = [.elsewhere change])
    (unreported : reports marks = []) (loop : next.loop.hub = reception.loop.hub)
    (running : next.loop.running = reception.loop.running)
    (queues : next.queues = change reception.queues) : Replayed (log ++ marks) next := by
  have same : serial (log ++ marks) = ((serial log).1, (serialHub log), change (serial log).2.2) := by
    rw [serial_append, turned]
    simp [play, Hub.turn]
  constructor
  case events =>
    refine each_append.mpr ⟨replayed.events, fun before mark after split call _ _ same => ?_⟩
    simp [split, same] at unhandled
  case told => simpa [same, unreported] using replayed.told
  case state =>
    intro runs
    have state := replayed.state (running ▸ runs)
    rw [same, serialHub, state, loop, queues]
  case stats => rw [serialHub, same, loop, replayed.stats]

theorem moved (replayed : Replayed log reception) (moved : reception.Moved marks next) :
    Replayed (log ++ marks) next := by
  cases moved with
  | idle | counted | acquired | released | called | left | heard | accepted =>
      exact replayed.quiet rfl rfl rfl (fun running => ⟨running, rfl, rfl⟩) rfl
  | finished | stopped =>
      exact replayed.quiet rfl rfl rfl (fun running => nomatch running) rfl
  | failed found kind =>
      rcases kind with rfl | rfl <;> exact replayed.change rfl rfl rfl rfl rfl rfl
  | changed => exact replayed.change rfl rfl rfl rfl rfl rfl
  | @handled call line accepts step running next seen processed =>
      have state := replayed.state running
      have turned : Hub.turn (serial log).2 (.process call.command (reception.fanout accepts)) =
          (step.events, step.hub, step.queues) := by
        rw [state, processed]
        rfl
      have same : serial (log ++ [.handled call (reception.fanout accepts) step.events]) =
          ((serial log).1 ++ step.events, step.hub, step.queues) := by
        simp [serial_append, play, turned]
      constructor
      case events =>
        refine each_append.mpr ⟨replayed.events, ?_⟩
        simp only [each_cons, each_nil, and_true, List.append_nil]
        intro call' fanout events same
        cases same
        rw [turned]
      case told => simp [same, replayed.told]
      case state => exact fun _ => by rw [same]
      case stats => rw [serialHub, same]

end Replayed

namespace Shown

theorem start (capacity : Nat) (attached : Bool) : Shown [] (.start capacity attached) where
  totals := rfl
  late := .inl rfl

/-- Neither the counters nor what is seen of them change. -/
theorem quiet (shown : Shown log reception) (unhandled : handled marks = [])
    (same : next.shown = reception.shown) (stats : next.loop.hub.stats = reception.loop.hub.stats) :
    Shown (log ++ marks) next := by
  constructor
  case totals => rw [same, stats, ← shown.totals]
  case late => simpa [unhandled, same, stats] using shown.late

theorem moved (shown : Shown log reception) (replayed : Replayed log reception)
    (moved : reception.Moved marks next) : Shown (log ++ marks) next := by
  cases moved with
  | idle | changed | acquired | released | called | left | heard | accepted | finished | stopped =>
      exact shown.quiet rfl rfl rfl
  | failed found kind => rcases kind with rfl | rfl <;> exact shown.quiet rfl rfl rfl
  | counted => exact ⟨rfl, .inl rfl⟩
  | @handled call line accepts step running next seen processed =>
      refine ⟨rfl, ?_⟩
      by_cases asked : call.operation = .snapshot
      · -- a request for a snapshot counts nothing, and what everybody sees was up to date
        have counted : reception.loop.hub.Counted := by
          have counted := counted_serial log
          rwa [serialHub, replayed.state running] at counted
        have hub : step.hub = reception.loop.hub := by
          rw [processed, Call.command, asked]
          exact counted.recount
        exact .inl (by rw [hub, seen])
      · exact .inr ⟨handled log, call, by simp, asked⟩

end Shown

namespace Answered

theorem start (capacity : Nat) (attached : Bool) : Answered [] (.start capacity attached) where
  answers := nofun
  heard := nofun

/-- A hub answers requests for a snapshot, and reports nothing else then. -/
theorem of_mem_answers {fanout : Option Bool} {command : Command} {hub : Hub} {queues : Queues}
    {ticket : Nat} {snapshot : Snapshot}
    (given : (ticket, snapshot) ∈ (hub.process fanout command queues).events.filterMap Event.answer?) :
    command = .snapshot ticket ∧
      (hub.process fanout command queues).events = [.answered ticket snapshot] := by
  rw [Hub.filterMap_process fun _ => rfl] at given
  cases command with
  | snapshot ticket' =>
      simp only [Event.answer?, Option.toList_some, List.mem_singleton, Prod.mk.injEq] at given
      obtain ⟨rfl, rfl⟩ := given
      exact ⟨rfl, rfl⟩
  | broadcast envelope =>
      simp only [Hub.publish_snd] at given
      cases fanout <;> simp [Event.answer?] at given
  | _ => exact nomatch given

/-- Two calls have two tickets. -/
theorem eq_of_ticket (called : Called log reception) {call call' : Call} (made : call ∈ calls log)
    (made' : call' ∈ calls log) (same : call.ticket = call'.ticket) : call = call' := by
  have tickets : ((calls log).map Call.ticket).Nodup := called.tickets ▸ List.nodup_range
  exact List.inj_on_of_nodup_map tickets made made' same

/-- Nothing is answered and nothing heard. -/
theorem quiet (answered : Answered log reception) (same : next.answers = reception.answers)
    (unheard : ∀ call answer, ReceptionMark.heard call answer ∉ marks) :
    Answered (log ++ marks) next := by
  constructor
  case answers =>
    intro ticket snapshot given
    obtain ⟨call, fanout, same, listed⟩ := answered.answers ticket snapshot (same ▸ given)
    exact ⟨call, fanout, same, List.mem_append_left _ listed⟩
  case heard =>
    intro call snapshot listed
    rcases List.mem_append.mp listed with listed | listed
    · obtain ⟨fanout, listed⟩ := answered.heard call snapshot listed
      exact ⟨fanout, List.mem_append_left _ listed⟩
    · exact absurd listed (unheard call _)

theorem moved (answered : Answered log reception) (called : Called log reception)
    (served : Served log reception) (moved : reception.Moved marks next) :
    Answered (log ++ marks) next := by
  cases moved with
  | idle | changed | acquired | released | called | left | accepted | finished | stopped | counted =>
      exact answered.quiet rfl (by simp)
  | failed found kind => rcases kind with rfl | rfl <;> exact answered.quiet rfl (by simp)
  | @handled call line accepts step running next seen processed =>
      constructor
      case answers =>
        intro ticket snapshot given
        rcases List.mem_append.mp given with given | given
        · obtain ⟨call, fanout, same, listed⟩ := answered.answers ticket snapshot given
          exact ⟨call, fanout, same, List.mem_append_left _ listed⟩
        · rw [processed] at given
          obtain ⟨command, events⟩ := of_mem_answers given
          refine ⟨call, reception.fanout accepts, (Call.asked command).2,
            List.mem_append_right _ ?_⟩
          rw [processed, events]
          exact List.mem_singleton_self _
      case heard =>
        intro call snapshot listed
        obtain ⟨fanout, listed⟩ := answered.heard call snapshot (by simpa using listed)
        exact ⟨fanout, List.mem_append_left _ listed⟩
  | @heard caller call answer found given =>
      constructor
      case answers =>
        intro ticket snapshot given
        obtain ⟨call, fanout, same, listed⟩ := answered.answers ticket snapshot given
        exact ⟨call, fanout, same, List.mem_append_left _ listed⟩
      case heard =>
        intro call' snapshot listed
        rcases List.mem_append.mp listed with listed | listed
        · obtain ⟨fanout, listed⟩ := answered.heard call' snapshot listed
          exact ⟨fanout, List.mem_append_left _ listed⟩
        · simp only [List.mem_singleton, ReceptionMark.heard.injEq] at listed
          obtain ⟨rfl, rfl⟩ := listed
          obtain ⟨other, fanout, same, listed⟩ := answered.answers _ _ (given snapshot rfl)
          have handled : other ∈ handled log := List.mem_filterMap.mpr ⟨_, listed, rfl⟩
          have accepted : other ∈ accepted log :=
            served.order.subset (List.mem_append_left _ handled)
          obtain rfl := eq_of_ticket called (called.made other (.inl accepted))
            (called.made call' (.inl (called.awaiting caller call' found))) same
          exact ⟨fanout, List.mem_append_left _ listed⟩

end Answered

/-- All of it. -/
structure Sound (capacity : Nat) (log : List ReceptionMark) (reception : Reception) : Prop where
  kept : Kept capacity reception
  called : Called log reception
  served : Served log reception
  replayed : Replayed log reception
  shown : Shown log reception
  answered : Answered log reception

namespace Sound

theorem start (capacity : Nat) (attached : Bool) : Sound capacity [] (.start capacity attached) :=
  ⟨.start .., .start .., .start .., .start .., .start .., .start ..⟩

theorem step (sound : Sound capacity log reception) (move : ReceptionMove) :
    Sound capacity (log ++ (reception.step move).1) (reception.step move).2 := by
  have moved := Reception.moved sound.kept.pending move
  exact ⟨sound.kept.moved moved, sound.called.moved moved, sound.served.moved moved,
    sound.replayed.moved moved, sound.shown.moved sound.replayed moved,
    sound.answered.moved sound.called sound.served moved⟩

theorem play (sound : Sound capacity log reception) (moves : List ReceptionMove) :
    Sound capacity (log ++ (play Reception.step reception moves).1)
      (play Reception.step reception moves).2 :=
  play_induction_after (fun _ _ move sound => sound.step move) sound moves

end Sound

/-! A hub that nobody holds. -/

/-- Nobody comes to hold it again, so nothing more is accepted. -/
theorem abandoned (sound : Sound capacity log reception) (unheld : reception.callers = ∅)
    (moves : List ReceptionMove) :
    (play step reception moves).2.callers = ∅ ∧ accepted (play step reception moves).1 = [] := by
  have keeps (later : List ReceptionMark) (state : Reception) (move : ReceptionMove)
      (before : Sound capacity later state ∧ state.callers = ∅ ∧ accepted later = accepted log) :
      Sound capacity (later ++ (state.step move).1) (state.step move).2 ∧
        (state.step move).2.callers = ∅ ∧
        accepted (later ++ (state.step move).1) = accepted log := by
    obtain ⟨sound, unheld, same⟩ := before
    refine ⟨sound.step move, ?_⟩
    have moved := Reception.moved sound.kept.pending move
    have absent (caller : Nat) : state.callers[caller]? = none := by simp [unheld]
    generalize state.step move = result at moved ⊢
    obtain ⟨marks, next⟩ := result
    cases moved with
    | idle | counted | changed | handled | finished | stopped => exact ⟨unheld, by simp [same]⟩
    | acquired upgrade => simp [EventLoop.canUpgrade, sound.kept.handles, unheld] at upgrade
    | released found | called found | accepted found | failed found | left found | heard found =>
        exact nomatch (absent _).symm.trans found
  have run := play_induction_after keeps ⟨sound, unheld, rfl⟩ moves
  refine ⟨run.2.1, ?_⟩
  simpa using run.2.2

/-- The loop shows its counters and goes on, once for each answer of the fanout. -/
def rounds (answers : List Bool) : List ReceptionMove :=
  answers.flatMap fun accepts => [.count, .take accepts]

/-- The loop processes what is in the channel and ends. -/
theorem finishes (sound : Sound capacity log reception) (running : reception.loop.running = true)
    (unheld : reception.callers = ∅) {answers : List Bool}
    (enough : answers.length = reception.line.length + 1) :
    ReceptionMark.finished ∈ (play step reception (rounds answers)).1 := by
  induction answers generalizing log reception with
  | nil => exact nomatch enough
  | cons accepts answers ih =>
      have later := sound.play [.count, .take accepts]
      have round : play step reception [.count, .take accepts] =
          take { reception with shown := reception.loop.hub.stats } accepts := by
        simp [play, step]
      have pending := sound.kept.pending
      have handles := sound.kept.handles
      rw [unheld] at handles
      have split : rounds (accepts :: answers) = [.count, .take accepts] ++ rounds answers := rfl
      rw [split, play_append, List.mem_append]
      rw [round] at later ⊢
      cases next : reception.line with
      | nil =>
          rw [next] at pending
          left
          simp [take, EventLoop.advance_nil running pending, handles]
      | cons call line =>
          rw [next] at pending
          right
          simp only [take, EventLoop.advance_cons running pending, next] at later ⊢
          refine ih later ?_ ?_ ?_
          · exact running
          · exact unheld
          · simpa [next] using enough

end
end ChatRelay.Reception
