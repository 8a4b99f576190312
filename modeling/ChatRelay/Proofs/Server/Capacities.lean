import ChatRelay.Proofs.Config.Layers
import ChatRelay.Proofs.Run
import ChatRelay.Proofs.Server.NamedRooms
import ChatRelay.Redis.Isolated
import Mathlib.Data.List.Induction

/-! # Room for what waits

Settings give the bounds of four kinds of queue. Every queue is made with room for one element at
least, but nothing keeps a capacity from being more than any queue can have room for: settings that
are accepted can ask for that, if the file or the environment says so.
-/

namespace ChatRelay

/-- What queues are for whose bounds are settings. -/
inductive QueueUse where
  /-- Requests to a hub. -/
  | requests
  /-- Payloads for one client. -/
  | payloads
  /-- Broadcasts for other instances. -/
  | broadcasts
  /-- Changes of presence. -/
  | changes

namespace QueueUse

/-- The setting that gives the bound. -/
def setting : QueueUse → Setting Nat
  | requests => .commandCapacity
  | payloads => .outboundCapacity
  | broadcasts | changes => .queueCapacity

/-- The largest value that the setting can have. -/
def greatestCapacity : QueueUse → Nat
  | payloads => Settings.greatestCapacity
  | requests | broadcasts | changes => Settings.greatestInteger

end QueueUse

/-- The bound with which a queue is made under some settings: that of the hub of a server as it
    starts, of a new client of a hub with these settings, of a bridge, and of a presence worker. -/
inductive MadeQueue (settings : Settings) : QueueUse → Nat → Prop
  | requests (id : InstanceId) :
      MadeQueue settings .requests (settings.launch id).node.loop.capacity
  | payloads {server : Server} {queue : Outbound} (same : server.node.config = settings.hub)
      (made : server.newHandle.2.queues[server.newHandle.1.queue]? = some queue) :
      MadeQueue settings .payloads queue.bound
  | broadcasts {node : Node} {held attached : Bool} {bridge : SilentBridge} {bound : Nat}
      (made : (Isolated.withBridge node held attached settings.redis).bridge = some bridge)
      (limit : bridge.bridge.outbox.limit = some bound) :
      MadeQueue settings .broadcasts bound
  | changes {node : Node} {held : Bool} {worker : SilentWorker}
      (made : (Isolated.withWorker node held settings.redis).worker = some worker) :
      MadeQueue settings .changes worker.worker.limit

variable {settings : Settings}

/-- A queue has room for as many elements as its capacity says, and for one if it says none. -/
theorem MadeQueue.bound_eq {use : QueueUse} {bound : Nat} (made : MadeQueue settings use bound) :
    bound = max (use.setting.get settings) 1 := by
  cases made with
  | requests id => rfl
  | @payloads server queue same made =>
      have found : server.newHandle.2.queues[server.newHandle.1.queue]? =
          some (.ofCapacity server.node.config.outboundCapacity) :=
        Std.ExtTreeMap.getElem?_insert_self
      rw [found, same] at made
      cases made
      rfl
  | broadcasts made limit =>
      cases made
      cases limit
      rfl
  | changes made =>
      cases made
      rfl

/-! ## The capacities of settings -/

namespace Settings

variable {file : Option Toml.Entries} {base : Settings}

theorem capacity_base_le (given : base? file = some base) (use : QueueUse) :
    use.setting.get base ≤ greatestInteger := by
  cases file with
  | none =>
      cases given
      cases use <;> decide
  | some root =>
      have fits : use.setting.kind.Fits (use.setting.get base) := by
        rcases use.setting.get_ofToml? given with ⟨-, default⟩ | ⟨-, fits⟩
        · rw [default]
          cases use <;> change _ ≤ _ <;> decide
        · exact fits
      cases use <;> exact fits

/-- No capacity is greater than the numbers that the layers can hold. -/
theorem capacity_le (given : base? file = some base) (env : Environment) (use : QueueUse) :
    use.setting.get (override env base) ≤ use.greatestCapacity := by
  have small := capacity_base_le given use
  rw [use.setting.get_override]
  cases own : use.setting.own? env with
  | none =>
      cases use with
      | payloads => exact Nat.le_trans small (by decide)
      | requests | broadcasts | changes => exact small
  | some capacity =>
      obtain ⟨name, named, text, -, means⟩ := use.setting.own?_eq_some_iff.mp own
      cases use with
      | payloads => exact Nat.le_of_lt_succ means.2
      | requests | broadcasts | changes => cases named

/-- What holds where nothing is set is never too much. -/
theorem large_capacity_stated (given : base? file = some base) (env : Environment) (use : QueueUse)
    (large : greatestQueue < use.setting.get (override env base)) :
    use.setting.Overrides env (use.setting.get (override env base)) ∨
      file.bind use.setting.stated? = some (.integer (use.setting.get (override env base))) := by
  generalize is : use.setting.get (override env base) = capacity at large ⊢
  cases (get_override_iff given env use.setting capacity).mp is with
  | environment overrides => exact .inl overrides
  | file unset stated =>
      refine .inr (stated.trans ?_)
      cases use <;> rfl
  | default unset unstated =>
      refine absurd large ?_
      cases use <;> decide

/-- Starting fails for the capacity of a queue if the address of the bridge can be read and the
    queue of the bridge or that of the hub asks for too much. -/
theorem launchFault?_code_iff (settings : Settings) :
    settings.launchFault?.map LaunchError.code = some 101 ↔
      (settings.redis.enabled = true → (RedisAddress.ofText? settings.redis.url).isSome = true) ∧
        (greatestQueue < settings.hub.commandCapacity ∨
          settings.redis.enabled = true ∧ greatestQueue < settings.redis.queueCapacity) := by
  unfold launchFault?
  dsimp only
  split
  · next unread =>
      simp only [Bool.and_eq_true, Option.isNone_iff_eq_none] at unread
      simp [LaunchError.code, unread]
  · next read =>
      simp only [Bool.and_eq_true, Option.isNone_iff_eq_none, not_and, ← ne_eq,
        Option.ne_none_iff_isSome] at read
      rw [and_iff_right read]
      split
      · next large =>
          have large : settings.redis.enabled = true ∧ greatestQueue < settings.redis.queueCapacity := by
            simpa using large
          simp [LaunchError.code, large]
      · next small =>
          have small : ¬(settings.redis.enabled = true ∧
              greatestQueue < settings.redis.queueCapacity) := by
            simpa using small
          rw [or_iff_left small]
          split
          · next large => simp [LaunchError.code, large]
          · next small => split <;> simp [LaunchError.code, small]

end Settings

/-! ## The queue of a client -/

namespace Outbound

/-- Offer a payload and see what becomes of it. -/
def offering (queue : Outbound) (data : Bytes) : List Offer × Outbound :=
  ([(queue.offer data).1], (queue.offer data).2)

/-- A new queue takes as many payloads as it has room for, and is full for all others. -/
theorem play_offering (capacity : Nat) (payloads : List Bytes) :
    let size := max capacity 1
    play offering (ofCapacity capacity) payloads =
      (List.replicate (min payloads.length size) .delivered ++
          List.replicate (payloads.length - size) .full,
        { bound := size, backlog := payloads.take size }) := by
  intro size
  induction payloads using List.reverseRecOn with
  | nil => simp [play, ofCapacity, size]
  | append_singleton payloads data ih =>
      rw [play_snoc, ih, List.length_append, List.length_singleton]
      dsimp only
      by_cases room : payloads.length < size
      · have before : payloads.take size = payloads := List.take_of_length_le (by omega)
        have after : (payloads ++ [data]).take size = payloads ++ [data] :=
          List.take_of_length_le (by rw [List.length_append, List.length_singleton]; omega)
        have offered : offering ⟨size, payloads, true, true⟩ data =
            ([.delivered], ⟨size, payloads ++ [data], true, true⟩) := by
          simp only [offering, offer, Nat.not_le.mpr room, Bool.not_true, Bool.false_eq_true,
            if_false]
        have full : payloads.length - size = 0 ∧ payloads.length + 1 - size = 0 := by omega
        have delivered : min payloads.length size = payloads.length ∧
            min (payloads.length + 1) size = payloads.length + 1 := by omega
        rw [before, after, offered, full.1, full.2, delivered.1, delivered.2,
          List.replicate_succ']
        simp
      · have filled : (payloads.take size).length = size := List.length_take_of_le (by omega)
        have after : (payloads ++ [data]).take size = payloads.take size :=
          List.take_append_of_le_length (by omega)
        have offered : offering ⟨size, payloads.take size, true, true⟩ data =
            ([.full], ⟨size, payloads.take size, true, true⟩) := by
          simp only [offering, offer, filled, Nat.le_refl, Bool.not_true, Bool.false_eq_true,
            if_true, if_false]
        have full : payloads.length + 1 - size = payloads.length - size + 1 := by omega
        have delivered : min payloads.length size = size ∧
            min (payloads.length + 1) size = size := by omega
        rw [after, offered, full, delivered.1, delivered.2, List.replicate_succ',
          List.append_assoc]

end Outbound

/-- Under all settings that a document or none and the environment give, every queue is made with
    room for one element at least, and with no more than any queue can have room for exactly if its
    capacity is not more. Starting fails for a queue exactly if one that it makes is to have more,
    which then the environment or the document says. The queue of a client takes as many payloads as
    its capacity says, and at least one, and no more. -/
theorem queues_fit_unless_stated_otherwise {file : Option Toml.Entries} {base : Settings}
    (given : Settings.base? file = some base) (env : Environment) :
    let settings := base.override env
    (∀ (use : QueueUse) (bound : Nat), MadeQueue settings use bound →
      let capacity := use.setting.get settings
      bound = max capacity 1 ∧ 1 ≤ bound ∧ capacity ≤ use.greatestCapacity ∧
        (bound ≤ greatestQueue ↔ capacity ≤ greatestQueue) ∧
        (greatestQueue < bound → use.setting.Overrides env capacity ∨
          file.bind use.setting.stated? = some (.integer capacity))) ∧
    (settings.launchFault?.map LaunchError.code = some 101 ↔
      (settings.redis.enabled = true → (RedisAddress.ofText? settings.redis.url).isSome = true) ∧
        (greatestQueue < settings.hub.commandCapacity ∨
          settings.redis.enabled = true ∧ greatestQueue < settings.redis.queueCapacity)) ∧
    ∀ payloads : List Bytes,
      let size := max settings.hub.outboundCapacity 1
      (play Outbound.offering (.ofCapacity settings.hub.outboundCapacity) payloads).1 =
        List.replicate (min payloads.length size) .delivered ++
          List.replicate (payloads.length - size) .full := by
  intro settings
  refine ⟨fun use bound made => ?_, settings.launchFault?_code_iff, fun payloads => ?_⟩
  · have is := made.bound_eq
    have fits : bound ≤ greatestQueue ↔ use.setting.get settings ≤ greatestQueue := by
      have room : 1 ≤ greatestQueue := by decide
      rw [is, Nat.max_le, and_iff_left room]
    refine ⟨is, is ▸ Nat.le_max_right _ _, Settings.capacity_le given env use, fits,
      fun large => Settings.large_capacity_stated given env use ?_⟩
    exact Nat.lt_of_not_le (mt fits.mpr (Nat.not_le.mpr large))
  · rw [Outbound.play_offering]

/-- A file asks for a small queue of requests and for a queue of broadcasts that is too large, and
    the environment for clients' queues with room for two. -/
theorem queues_fit_unless_stated_otherwise_large :
    let root : Toml.Entries :=
      [("hub", .table .header [("command_capacity", .integer 512)]),
        ("redis", .table .header
          [("enabled", .bool true), ("queue_capacity", .integer 2305843009213693952)])]
    let env : Environment := fun name =>
      if name = "ROOMCAST_OUTBOUND_CAPACITY" then some (Utf8.ofString "2") else none
    let base : Settings :=
      { hub := { commandCapacity := 512 }
        redis := { enabled := true, queueCapacity := 2305843009213693952 } }
    let settings := base.override env
    Settings.base? (some root) = some base ∧
      (∀ bound, MadeQueue settings .requests bound → bound = 512 ∧ bound ≤ greatestQueue) ∧
      (MadeQueue settings .broadcasts 2305843009213693952 ∧
        (Setting.queueCapacity.Overrides env 2305843009213693952 ∨
          Setting.queueCapacity.stated? root = some (.integer 2305843009213693952))) ∧
      settings.launchFault?.map LaunchError.code = some 101 ∧
      ∀ first second third,
        (play Outbound.offering (.ofCapacity settings.hub.outboundCapacity)
          [first, second, third]).1 = [.delivered, .delivered, .full] := by
  intro root env base settings
  have given : Settings.base? (some root) = some base := by decide +kernel
  obtain ⟨fits, launch, takes⟩ := queues_fit_unless_stated_otherwise given env
  have large : MadeQueue settings .broadcasts 2305843009213693952 := by
    have made : (Isolated.withBridge (settings.launch .zero).node true true settings.redis).bridge =
      some _ := rfl
    exact .broadcasts made rfl
  have address : (RedisAddress.ofText? settings.redis.url).isSome = true := by decide +kernel
  refine ⟨given, fun bound made => ?_, ⟨large, ?_⟩, launch.mpr ⟨fun _ => address, ?_⟩,
    fun first second third => ?_⟩
  · obtain ⟨rfl, -, -, fits, -⟩ := fits .requests bound made
    exact ⟨by decide +kernel, fits.mpr (by decide +kernel)⟩
  · exact (fits .broadcasts _ large).2.2.2.2 (by decide)
  · exact .inr ⟨by decide +kernel, by decide +kernel⟩
  · have two : settings.hub.outboundCapacity = 2 := by decide +kernel
    rw [takes, two]
    rfl

/-- A file that is accepted and asks for more requests than any queue can have room for: the server
    does not start. -/
theorem accepted_capacity_is_too_large :
    let settings : Settings :=
      { server := { host := "127.0.0.1" }, hub := { commandCapacity := 2305843009213693952 } }
    let content :=
      "[hub]\ncommand_capacity = 2305843009213693952\n[server]\nhost=\"127.0.0.1\"\n"
    Settings.loadWith .empty (.single "c.toml" content) "c.toml" = .ok settings ∧
      MadeQueue settings .requests 2305843009213693952 ∧ greatestQueue < 2305843009213693952 ∧
      settings.launchFault?.map LaunchError.code = some 101 := by
  intro settings content
  exact ⟨by decide +kernel, .requests .zero, by decide, by decide +kernel⟩

end ChatRelay
