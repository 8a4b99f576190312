import ChatRelay.Config.Loading
import ChatRelay.Proofs.Text.Validity
import Mathlib.Algebra.Group.Nat.Defs

/-! # Layers of settings

Every setting comes from the strongest of three layers that has a value for it: the environment, the
file, and what holds where nothing is set. A variable only reaches its own setting, and one without
a valid value reaches none. Where no file is named, the file is the first usable one of several.
-/

namespace ChatRelay

namespace Text

/-- Whether a text is a number in decimal digits, after a plus sign or without one. -/
def IsNumeral (text : List Char) (n : Nat) : Prop :=
  ∃ digits, (text = digits ∨ text = '+' :: digits) ∧ digits ≠ [] ∧
    (∀ c ∈ digits, c.isDigit = true) ∧ Nat.ofDigitChars 10 digits 0 = n

theorem digits_eq_false_iff {digits : List Char} :
    (digits.isEmpty || !digits.all Char.isDigit) = false ↔
      digits ≠ [] ∧ ∀ c ∈ digits, c.isDigit = true := by
  simp

theorem natural?_eq_some_iff {text : List Char} {n : Nat} :
    natural? text = some n ↔ IsNumeral text n := by
  have read {digits : List Char} :
      (if digits.isEmpty || !digits.all Char.isDigit then none
        else some (digitsValue 0 digits)) = some n ↔
        digits ≠ [] ∧ (∀ c ∈ digits, c.isDigit = true) ∧ Nat.ofDigitChars 10 digits 0 = n := by
    rw [← and_assoc, ← digits_eq_false_iff, ← digitsValue_eq]
    cases digits.isEmpty || !digits.all Char.isDigit <;> simp
  unfold natural?
  split
  · next digits =>
      refine read.trans ⟨fun numeral => ⟨digits, .inr rfl, numeral⟩, ?_⟩
      rintro ⟨digits', rfl | same, numeral⟩
      · cases numeral.2.1 '+' List.mem_cons_self
      · cases same
        exact numeral
  · next unsigned =>
      refine read.trans ⟨fun numeral => ⟨text, .inl rfl, numeral⟩, ?_⟩
      rintro ⟨digits', rfl | same, numeral⟩
      · exact numeral
      · exact absurd same (unsigned digits')

end Text

/-! ## The settings one by one -/

/-- What the values of a setting are, and which of them a file can give it. -/
inductive SettingKind : Type → Type where
  | text : SettingKind String
  | number (greatest : Nat) : SettingKind Nat
  | flag : SettingKind Bool

namespace SettingKind

open Toml (Entries Value)

variable {α : Type}

/-- How a value is written in a document. -/
def written : SettingKind α → α → Value
  | text, value => .string value
  | number _, n => .integer n
  | flag, value => .bool value

/-- Whether a value is small enough. -/
def Fits : SettingKind α → α → Prop
  | number greatest, n => n ≤ greatest
  | text, _ | flag, _ => True

/-- How a setting of the kind is read. -/
def read? : SettingKind α → String → α → Entries → Option α
  | text, name, default, entries => Settings.text? name default entries
  | number greatest, name, default, entries => Settings.natural? name default greatest entries
  | flag, name, default, entries => Settings.flag? name default entries

theorem read?_eq_some {kind : SettingKind α} {name : String} {default value : α}
    {entries : Entries} (read : kind.read? name default entries = some value) :
    entries.lookup name = none ∧ value = default ∨
      entries.lookup name = some (kind.written value) ∧ kind.Fits value := by
  cases kind with
  | text =>
      simp only [read?, Settings.text?] at read
      split at read
      · next absent => exact .inl ⟨absent, (Option.some.inj read).symm⟩
      · next text found =>
          cases read
          exact .inr ⟨found, trivial⟩
      · cases read
  | number greatest =>
      simp only [read?, Settings.natural?] at read
      split at read
      · next absent => exact .inl ⟨absent, (Option.some.inj read).symm⟩
      · next n found =>
          split at read
          · next range =>
              cases read
              refine .inr ⟨found.trans ?_, Int.toNat_le.mpr range.2⟩
              rw [written, Int.toNat_of_nonneg range.1]
          · cases read
      · cases read
  | flag =>
      simp only [read?, Settings.flag?] at read
      split at read
      · next absent => exact .inl ⟨absent, (Option.some.inj read).symm⟩
      · next b found =>
          cases read
          exact .inr ⟨found, trivial⟩
      · cases read

end SettingKind

/-- The sections of a settings file. -/
inductive SettingGroup where
  | server
  | hub
  | redis
  | logging

namespace SettingGroup

/-- The name of a section. -/
def title : SettingGroup → String
  | server => "server"
  | hub => "hub"
  | redis => "redis"
  | logging => "logging"

/-- The names of the settings of a section, in order. -/
def names : SettingGroup → List String
  | server => ["host", "port", "default_room"]
  | hub => ["command_capacity", "outbound_capacity"]
  | redis => ["enabled", "url", "channel_prefix", "rooms_key", "members_key", "op_timeout_ms",
      "queue_capacity", "presence"]
  | logging => ["level", "format"]

theorem nodup_names (group : SettingGroup) : group.names.Nodup := by
  cases group <;> decide

end SettingGroup

/-- One of the settings, with the type of its values. -/
inductive Setting : Type → Type where
  | host : Setting String
  | port : Setting Nat
  | defaultRoom : Setting String
  | commandCapacity : Setting Nat
  | outboundCapacity : Setting Nat
  | redisEnabled : Setting Bool
  | redisUrl : Setting String
  | channelStart : Setting String
  | roomsKey : Setting String
  | membersKey : Setting String
  | opTimeoutMs : Setting Nat
  | queueCapacity : Setting Nat
  | presence : Setting Bool
  | logLevel : Setting String
  | logFormat : Setting String

namespace Setting

open Toml (Entries Value)

variable {α : Type}

/-- What a setting is among all settings. -/
def get : Setting α → Settings → α
  | host, settings => settings.server.host
  | port, settings => settings.server.port
  | defaultRoom, settings => settings.server.defaultRoom
  | commandCapacity, settings => settings.hub.commandCapacity
  | outboundCapacity, settings => settings.hub.outboundCapacity
  | redisEnabled, settings => settings.redis.enabled
  | redisUrl, settings => settings.redis.url
  | channelStart, settings => settings.redis.channelStart
  | roomsKey, settings => settings.redis.roomsKey
  | membersKey, settings => settings.redis.membersKey
  | opTimeoutMs, settings => settings.redis.opTimeoutMs
  | queueCapacity, settings => settings.redis.queueCapacity
  | presence, settings => settings.redis.presence
  | logLevel, settings => settings.logging.level
  | logFormat, settings => settings.logging.format

/-- Settings that agree one by one are the same. -/
theorem eq_of_get {settings settings' : Settings}
    (same : ∀ (α : Type) (setting : Setting α), setting.get settings = setting.get settings') :
    settings = settings' := by
  obtain ⟨⟨_, _, _⟩, ⟨_, _⟩, ⟨_, _, _, _, _, _, _, _⟩, ⟨_, _⟩⟩ := settings
  obtain ⟨⟨_, _, _⟩, ⟨_, _⟩, ⟨_, _, _, _, _, _, _, _⟩, ⟨_, _⟩⟩ := settings'
  cases same _ host
  cases same _ port
  cases same _ defaultRoom
  cases same _ commandCapacity
  cases same _ outboundCapacity
  cases same _ redisEnabled
  cases same _ redisUrl
  cases same _ channelStart
  cases same _ roomsKey
  cases same _ membersKey
  cases same _ opTimeoutMs
  cases same _ queueCapacity
  cases same _ presence
  cases same _ logLevel
  cases same _ logFormat
  rfl

def kind : Setting α → SettingKind α
  | host | defaultRoom | redisUrl | channelStart | roomsKey | membersKey | logLevel | logFormat =>
    .text
  | port => .number Settings.greatestPort
  | commandCapacity | outboundCapacity | opTimeoutMs | queueCapacity =>
    .number Settings.greatestInteger
  | redisEnabled | presence => .flag

/-! ## The layer of the file -/

/-- The section of a setting. -/
def group : Setting α → SettingGroup
  | host | port | defaultRoom => .server
  | commandCapacity | outboundCapacity => .hub
  | redisEnabled | redisUrl | channelStart | roomsKey | membersKey | opTimeoutMs | queueCapacity
  | presence => .redis
  | logLevel | logFormat => .logging

/-- The place of a setting in its section. -/
def place : Setting α → Nat
  | host | commandCapacity | redisEnabled | logLevel => 0
  | port | outboundCapacity | redisUrl | logFormat => 1
  | defaultRoom | channelStart => 2
  | roomsKey => 3
  | membersKey => 4
  | opTimeoutMs => 5
  | queueCapacity => 6
  | presence => 7

/-- The name of a setting in its section. -/
def name (setting : Setting α) : String := setting.group.names.getD setting.place ""

theorem names_place (setting : Setting α) :
    setting.group.names[setting.place]? = some setting.name := by
  cases setting <;> rfl

/-- The value that a document has for a setting, by the name of the setting in the table of its
    section, or by its place where the section is an array. -/
def stated? (setting : Setting α) (root : Entries) : Option Value :=
  match root.lookup setting.group.title with
  | some (.table _ entries) => entries.lookup setting.name
  | some (.array items) => items[setting.place]?
  | some (.tables items) => items[setting.place]?.map (.table .header)
  | _ => none

theorem lookup_zip {names : List String} {items : List Value} {name : String} {place : Nat}
    (distinct : names.Nodup) (found : names[place]? = some name) :
    (names.zip items).lookup name = items[place]? := by
  induction names generalizing items place with
  | nil => cases found
  | cons first names ih =>
      obtain ⟨other, distinct⟩ := List.nodup_cons.mp distinct
      cases items with
      | nil => rfl
      | cons item items =>
          cases place with
          | zero =>
              cases found
              exact List.lookup_cons_self
          | succ place =>
              have later : names[place]? = some name := found
              have apart : (name == first) = false := by
                rw [beq_eq_false_iff_ne]
                rintro rfl
                exact other (List.mem_of_getElem? later)
              rw [List.zip_cons_cons, List.lookup_cons, apart]
              exact ih distinct later

theorem lookup_section? (setting : Setting α) {root entries : Entries}
    (found : Settings.section? setting.group.title setting.group.names root = some entries) :
    entries.lookup setting.name = setting.stated? root := by
  have distinct := setting.group.nodup_names
  unfold Settings.section? at found
  unfold stated?
  split at found
  all_goals cases found
  · next absent => rw [absent]; rfl
  · next table => rw [table]
  · next array => rw [array, lookup_zip distinct setting.names_place]
  · next tables => rw [tables, lookup_zip distinct setting.names_place, List.getElem?_map]
  · next moment => rw [moment]; rfl

/-! Every setting is read by its name from its section. -/

section Reading

variable {root : Entries}

theorem read_server? {server : ServerSettings} (given : Settings.server? root = some server) :
    ∃ entries, Settings.section? "server" SettingGroup.server.names root = some entries ∧
      host.kind.read? "host" "0.0.0.0" entries = some server.host ∧
      port.kind.read? "port" 8000 entries = some server.port ∧
      defaultRoom.kind.read? "default_room" "General" entries = some server.defaultRoom := by
  unfold Settings.server? at given
  simp only [Option.bind_eq_bind, Option.bind_eq_some_iff] at given
  obtain ⟨entries, found, _, isHost, _, isPort, _, isRoom, is⟩ := given
  cases is
  exact ⟨entries, found, isHost, isPort, isRoom⟩

theorem read_hub? {hub : HubConfig} (given : Settings.hub? root = some hub) :
    ∃ entries, Settings.section? "hub" SettingGroup.hub.names root = some entries ∧
      commandCapacity.kind.read? "command_capacity" 4096 entries = some hub.commandCapacity ∧
      outboundCapacity.kind.read? "outbound_capacity" 256 entries = some hub.outboundCapacity := by
  unfold Settings.hub? at given
  simp only [Option.bind_eq_bind, Option.bind_eq_some_iff] at given
  obtain ⟨entries, found, _, isCommands, _, isOutbound, is⟩ := given
  cases is
  exact ⟨entries, found, isCommands, isOutbound⟩

theorem read_redis? {redis : RedisSettings} (given : Settings.redis? root = some redis) :
    ∃ entries, Settings.section? "redis" SettingGroup.redis.names root = some entries ∧
      redisEnabled.kind.read? "enabled" false entries = some redis.enabled ∧
      redisUrl.kind.read? "url" "redis://127.0.0.1:6379" entries = some redis.url ∧
      channelStart.kind.read? "channel_prefix" "chat:" entries = some redis.channelStart ∧
      roomsKey.kind.read? "rooms_key" "rooms" entries = some redis.roomsKey ∧
      membersKey.kind.read? "members_key" "room:members" entries = some redis.membersKey ∧
      opTimeoutMs.kind.read? "op_timeout_ms" 500 entries = some redis.opTimeoutMs ∧
      queueCapacity.kind.read? "queue_capacity" 1024 entries = some redis.queueCapacity ∧
      presence.kind.read? "presence" true entries = some redis.presence := by
  unfold Settings.redis? at given
  simp only [Option.bind_eq_bind, Option.bind_eq_some_iff] at given
  obtain ⟨entries, found, _, isEnabled, _, isUrl, _, isStart, _, isRooms, _, isMembers, _,
    isTimeout, _, isQueue, _, isPresence, is⟩ := given
  cases is
  exact ⟨entries, found, isEnabled, isUrl, isStart, isRooms, isMembers, isTimeout, isQueue,
    isPresence⟩

theorem read_logging? {logging : LoggingSettings}
    (given : Settings.logging? root = some logging) :
    ∃ entries, Settings.section? "logging" SettingGroup.logging.names root = some entries ∧
      logLevel.kind.read? "level" "info" entries = some logging.level ∧
      logFormat.kind.read? "format" "pretty" entries = some logging.format := by
  unfold Settings.logging? at given
  simp only [Option.bind_eq_bind, Option.bind_eq_some_iff] at given
  obtain ⟨entries, found, _, isLevel, _, isFormat, is⟩ := given
  cases is
  exact ⟨entries, found, isLevel, isFormat⟩

theorem read_ofToml? {settings : Settings} (given : Settings.ofToml? root = some settings)
    (setting : Setting α) :
    ∃ entries, Settings.section? setting.group.title setting.group.names root = some entries ∧
      setting.kind.read? setting.name (setting.get {}) entries = some (setting.get settings) := by
  unfold Settings.ofToml? at given
  simp only [Option.bind_eq_bind, Option.bind_eq_some_iff] at given
  obtain ⟨server, isServer, hub, isHub, redis, isRedis, logging, isLogging, is⟩ := given
  cases is
  obtain ⟨inServer, server, isHost, isPort, isRoom⟩ := read_server? isServer
  obtain ⟨inHub, hub, isCommands, isOutbound⟩ := read_hub? isHub
  obtain ⟨inRedis, redis, isEnabled, isUrl, isStart, isRooms, isMembers, isTimeout, isQueue,
    isPresence⟩ := read_redis? isRedis
  obtain ⟨inLogging, logging, isLevel, isFormat⟩ := read_logging? isLogging
  cases setting with
  | host => exact ⟨inServer, server, isHost⟩
  | port => exact ⟨inServer, server, isPort⟩
  | defaultRoom => exact ⟨inServer, server, isRoom⟩
  | commandCapacity => exact ⟨inHub, hub, isCommands⟩
  | outboundCapacity => exact ⟨inHub, hub, isOutbound⟩
  | redisEnabled => exact ⟨inRedis, redis, isEnabled⟩
  | redisUrl => exact ⟨inRedis, redis, isUrl⟩
  | channelStart => exact ⟨inRedis, redis, isStart⟩
  | roomsKey => exact ⟨inRedis, redis, isRooms⟩
  | membersKey => exact ⟨inRedis, redis, isMembers⟩
  | opTimeoutMs => exact ⟨inRedis, redis, isTimeout⟩
  | queueCapacity => exact ⟨inRedis, redis, isQueue⟩
  | presence => exact ⟨inRedis, redis, isPresence⟩
  | logLevel => exact ⟨inLogging, logging, isLevel⟩
  | logFormat => exact ⟨inLogging, logging, isFormat⟩

/-- A file gives a setting what it states for it, and leaves it where it states nothing. -/
theorem get_ofToml? {settings : Settings} (given : Settings.ofToml? root = some settings)
    (setting : Setting α) :
    setting.stated? root = none ∧ setting.get settings = setting.get {} ∨
      setting.stated? root = some (setting.kind.written (setting.get settings)) ∧
        setting.kind.Fits (setting.get settings) := by
  obtain ⟨entries, found, read⟩ := read_ofToml? given setting
  rw [← lookup_section? setting found]
  exact SettingKind.read?_eq_some read

end Reading

/-! ## The layer of the environment -/

/-- The variable of a setting, if it has one. -/
def envName? : Setting α → Option String
  | host => "ROOMCAST_HOST"
  | port => "ROOMCAST_PORT"
  | defaultRoom => "ROOMCAST_DEFAULT_ROOM"
  | outboundCapacity => "ROOMCAST_OUTBOUND_CAPACITY"
  | redisUrl => "ROOMCAST_REDIS_URL"
  | redisEnabled => "ROOMCAST_REDIS_ENABLED"
  | logLevel => "ROOMCAST_LOG_LEVEL"
  | logFormat => "ROOMCAST_LOG_FORMAT"
  | commandCapacity | channelStart | roomsKey | membersKey | opTimeoutMs | queueCapacity
  | presence => none

/-- Whether a text is one of the words that switch something off, in any mix of cases. -/
def IsOff (text : String) : Prop :=
  ∃ word ∈ ["false", "0", "no", "off", ""], text.toList.map Char.toLower = word.toList

/-- Whether a text is a valid value of the variable of a setting, and which value it gives. -/
def Means : Setting α → String → α → Prop
  | host, text, value | redisUrl, text, value | logLevel, text, value | logFormat, text, value =>
    value = text
  | defaultRoom, text, room => room = text ∧ text ≠ ""
  | port, text, n => Text.IsNumeral text.toList n ∧ n < 2 ^ 16
  | outboundCapacity, text, n => Text.IsNumeral text.toList n ∧ n < 2 ^ 64
  | redisEnabled, text, enabled => enabled = false ↔ IsOff text
  | commandCapacity, _, _ | channelStart, _, _ | roomsKey, _, _ | membersKey, _, _
  | opTimeoutMs, _, _ | queueCapacity, _, _ | presence, _, _ => False

/-- Whether the environment has a valid value for a setting. The value of a variable is that of a
    text, or the variable counts as not set. -/
def Overrides (setting : Setting α) (env : Environment) (value : α) : Prop :=
  ∃ name ∈ setting.envName?, ∃ text, env name = some (Utf8.ofString text) ∧
    setting.Means text value

/-- How the value of its variable is read for a setting. -/
def valid? : Setting α → String → Option α
  | host, text | redisUrl, text | logLevel, text | logFormat, text => some text
  | defaultRoom, text => if text.isEmpty then none else some text
  | port, text => (Text.natural? text.toList).filter (· ≤ 65535)
  | outboundCapacity, text => (Text.natural? text.toList).filter (· ≤ Settings.greatestCapacity)
  | redisEnabled, text => some (Environment.isOn text)
  | commandCapacity, _ | opTimeoutMs, _ | queueCapacity, _ => none
  | channelStart, _ | roomsKey, _ | membersKey, _ => none
  | presence, _ => none

/-- The value that the environment has for a setting. -/
def own? (setting : Setting α) (env : Environment) : Option α :=
  (setting.envName?.bind env.text?).bind setting.valid?

theorem get_override (setting : Setting α) (env : Environment) (settings : Settings) :
    setting.get (settings.override env) = (setting.own? env).getD (setting.get settings) := by
  cases setting with
  | host | port | outboundCapacity | redisUrl | redisEnabled | logLevel | logFormat =>
      simp only [get, Settings.override, Environment.natural?, own?, envName?, Option.bind_some]
      generalize env.text? _ = found
      cases found <;> rfl
  | defaultRoom =>
      simp only [get, Settings.override, own?, envName?, Option.bind_some]
      generalize env.text? _ = found
      cases found with
      | none => rfl
      | some room => cases empty : room.isEmpty <;> simp [Option.filter, valid?, empty]
  | commandCapacity | channelStart | roomsKey | membersKey | opTimeoutMs | queueCapacity
  | presence => rfl

theorem isOn_eq_false_iff (text : String) : Environment.isOn text = false ↔ IsOff text := by
  simp only [Environment.isOn, Environment.offWords, Bool.not_eq_false', List.contains_iff_mem,
    IsOff]
  constructor
  · intro member
    exact ⟨_, member, (String.toList_ofList).symm⟩
  · rintro ⟨word, member, same⟩
    rwa [same, String.ofList_toList]

theorem valid?_eq_some_iff (setting : Setting α) (named : setting.envName? ≠ none) {text : String}
    {value : α} :
    setting.valid? text = some value ↔ setting.Means text value := by
  cases setting with
  | host | redisUrl | logLevel | logFormat => exact Option.some_inj.trans eq_comm
  | port | outboundCapacity =>
      simp only [valid?, Means, Option.filter_eq_some_iff, Text.natural?_eq_some_iff,
        Settings.greatestCapacity]
      exact and_congr_right fun _ => decide_eq_true_iff.trans Nat.lt_succ_iff.symm
  | defaultRoom =>
      simp only [valid?, Means, String.isEmpty_iff]
      by_cases empty : text = ""
      · simp [empty]
      · rw [if_neg empty, and_iff_left empty, Option.some_inj, eq_comm]
  | redisEnabled =>
      simp only [valid?, Means, ← isOn_eq_false_iff, Option.some_inj]
      cases Environment.isOn text <;> cases value <;> simp
  | commandCapacity | channelStart | roomsKey | membersKey | opTimeoutMs | queueCapacity
  | presence => exact absurd rfl named

theorem own?_eq_some_iff (setting : Setting α) {env : Environment} {value : α} :
    setting.own? env = some value ↔ setting.Overrides env value := by
  simp only [own?, Overrides, Option.bind_eq_some_iff, Environment.text?,
    Utf8.toString?_eq_some_iff]
  constructor
  · rintro ⟨text, ⟨name, named, bytes, held, rfl⟩, valid⟩
    exact ⟨name, named, text, held,
      (setting.valid?_eq_some_iff (by simp [named])).mp valid⟩
  · rintro ⟨name, named, text, held, means⟩
    exact ⟨text, ⟨name, named, _, held, rfl⟩,
      (setting.valid?_eq_some_iff (by simp [Option.mem_def.mp named])).mpr means⟩

theorem own?_eq_none_iff (setting : Setting α) {env : Environment} :
    setting.own? env = none ↔ ∀ value, ¬setting.Overrides env value := by
  simp only [Option.eq_none_iff_forall_ne_some, ne_eq, own?_eq_some_iff]

/-- A setting is read from its own variable only. -/
theorem own?_congr (setting : Setting α) {env env' : Environment}
    (same : ∀ name ∈ setting.envName?, env name = env' name) :
    setting.own? env = setting.own? env' := by
  unfold own?
  cases named : setting.envName? with
  | none => rfl
  | some name => simp only [Option.bind_some, Environment.text?, same name named]

/-! ## All layers -/

/-- The value that a setting has under an environment, with the document of a file or without
    one. -/
inductive Layered (setting : Setting α) (env : Environment) (file : Option Entries) : α → Prop
  | environment {value : α} (overrides : setting.Overrides env value) :
      Layered setting env file value
  | file {value : α} (unset : ∀ other, ¬setting.Overrides env other)
      (stated : file.bind setting.stated? = some (setting.kind.written value)) :
      Layered setting env file value
  | default (unset : ∀ other, ¬setting.Overrides env other)
      (unstated : file.bind setting.stated? = none) :
      Layered setting env file (setting.get {})

end Setting

namespace SettingKind

theorem written_injective {α : Type} (kind : SettingKind α) {value value' : α}
    (same : kind.written value = kind.written value') : value = value' := by
  cases kind with
  | text | flag =>
      cases same
      rfl
  | number greatest => exact Int.ofNat.inj (Toml.Value.integer.inj same)

end SettingKind

namespace Settings

open Toml (Entries)

/-- The settings of the document of a file, or those that hold where nothing is set. -/
def base? : Option Entries → Option Settings
  | none => some {}
  | some root => ofToml? root

theorem get_base? {α : Type} {file : Option Entries} {base : Settings}
    (given : base? file = some base) (setting : Setting α) :
    file.bind setting.stated? = none ∧ setting.get base = setting.get {} ∨
      file.bind setting.stated? = some (setting.kind.written (setting.get base)) := by
  cases file with
  | none =>
      cases given
      exact .inl ⟨rfl, rfl⟩
  | some root =>
      rcases setting.get_ofToml? given with unstated | ⟨stated, -⟩
      · exact .inl unstated
      · exact .inr stated

theorem get_override_iff {α : Type} {file : Option Entries} {base : Settings}
    (given : base? file = some base) (env : Environment) (setting : Setting α) (value : α) :
    setting.get (override env base) = value ↔ setting.Layered env file value := by
  rw [setting.get_override]
  constructor
  · rintro rfl
    cases own : setting.own? env with
    | some value => exact .environment (setting.own?_eq_some_iff.mp own)
    | none =>
        have unset := setting.own?_eq_none_iff.mp own
        rcases get_base? given setting with ⟨unstated, default⟩ | stated
        · rw [Option.getD_none, default]
          exact .default unset unstated
        · exact .file unset stated
  · intro layered
    cases layered with
    | environment overrides => rw [setting.own?_eq_some_iff.mpr overrides, Option.getD_some]
    | file unset stated =>
        rw [setting.own?_eq_none_iff.mpr unset, Option.getD_none]
        rcases get_base? given setting with ⟨unstated, -⟩ | stated'
        · cases unstated.symm.trans stated
        · exact setting.kind.written_injective (Option.some.inj (stated'.symm.trans stated))
    | default unset unstated =>
        rw [setting.own?_eq_none_iff.mpr unset, Option.getD_none]
        rcases get_base? given setting with ⟨-, default⟩ | stated
        · exact default
        · cases unstated.symm.trans stated

theorem override_override (env : Environment) (settings : Settings) :
    override env (override env settings) = override env settings := by
  refine Setting.eq_of_get fun α setting => ?_
  simp only [setting.get_override]
  cases setting.own? env <;> rfl

/-! ## The file that is used -/

/-- A file can be read and its text is the document. -/
def Holds (files : Files) (path : String) (root : Entries) : Prop :=
  ∃ text, files path = .ok (Utf8.encode text) ∧ Toml.document? text = some root

/-- Nothing can be read at a path that gives settings. -/
def Unusable (files : Files) (path : String) : Prop :=
  ∀ root, Holds files path root → ofToml? root = none

/-- The document of the first usable file of several, if one of them is usable. -/
inductive Chosen (files : Files) : List String → Option Entries → Prop
  | none {paths : List String} (unusable : ∀ path ∈ paths, Unusable files path) :
      Chosen files paths none
  | some (before : List String) {after : List String} {path : String} {root : Entries}
      (unusable : ∀ other ∈ before, Unusable files other) (holds : Holds files path root)
      (usable : (ofToml? root).isSome = true) :
      Chosen files (before ++ path :: after) (some root)

theorem text_eq_ok_iff {files : Files} {path : String} {text : List Char} :
    files.text path = .ok text ↔ files path = .ok (Utf8.encode text) := by
  unfold Files.text
  split
  · next fault found => simp [found]
  · next content found =>
      rw [found, Except.ok.injEq, ← Utf8.decode?_eq_some_iff]
      cases Utf8.decode? content <;> simp

/-- A file gives settings if its document does. -/
theorem load_eq_ok_iff {files : Files} {path : String} {settings : Settings} :
    load files path = .ok settings ↔
      ∃ root, Holds files path root ∧ ofToml? root = some settings := by
  have read (text : List Char) : files.text path = .ok text → (load files path = .ok settings ↔
      ofText? text = some settings) := by
    intro found
    rw [load, found]
    dsimp only
    cases ofText? text <;> simp
  constructor
  · intro loaded
    cases found : files.text path with
    | error fault =>
        rw [load, found] at loaded
        cases loaded
    | ok text =>
        obtain ⟨root, parsed, given⟩ :=
          Option.bind_eq_some_iff.mp ((read text found).mp loaded)
        exact ⟨root, ⟨text, text_eq_ok_iff.mp found, parsed⟩, given⟩
  · rintro ⟨root, ⟨text, found, parsed⟩, given⟩
    exact (read text (text_eq_ok_iff.mpr found)).mpr (Option.bind_eq_some_iff.mpr ⟨root, parsed, given⟩)

theorem loadFirst_chosen (env : Environment) (files : Files) (paths : List String) :
    ∃ file base, Chosen files paths file ∧ base? file = some base ∧
      loadFirst env files paths = override env base := by
  induction paths with
  | nil => exact ⟨none, {}, .none nofun, rfl, rfl⟩
  | cons path paths ih =>
      cases loaded : load files path with
      | ok base =>
          obtain ⟨root, holds, given⟩ := load_eq_ok_iff.mp loaded
          refine ⟨some root, base, .some [] nofun holds ?_, given, ?_⟩
          · rw [given, Option.isSome_some]
          · simp only [loadFirst, loadWith, loaded, Except.map]
      | error fault =>
          have unusable : Unusable files path := by
            intro root holds
            rw [Option.eq_none_iff_forall_ne_some]
            intro settings given
            cases loaded.symm.trans (load_eq_ok_iff.mpr ⟨root, holds, given⟩)
          obtain ⟨file, base, chosen, given, is⟩ := ih
          refine ⟨file, base, ?_, given, ?_⟩
          · cases chosen with
            | none others => exact .none (List.forall_mem_cons.mpr ⟨unusable, others⟩)
            | some before others holds usable =>
                exact .some (path :: before) (List.forall_mem_cons.mpr ⟨unusable, others⟩) holds
                  usable
          · simpa only [loadFirst, loadWith, loaded, Except.map] using is

theorem loadWith_eq_ok_iff {env : Environment} {files : Files} {path : String}
    {settings : Settings} :
    loadWith env files path = .ok settings ↔
      ∃ root base, Holds files path root ∧ base? (some root) = some base ∧
        settings = override env base := by
  unfold loadWith
  constructor
  · intro loaded
    cases found : load files path with
    | error fault =>
        rw [found] at loaded
        cases loaded
    | ok base =>
        rw [found] at loaded
        cases loaded
        obtain ⟨root, holds, given⟩ := load_eq_ok_iff.mp found
        exact ⟨root, base, holds, given, rfl⟩
  · rintro ⟨root, base, holds, given, rfl⟩
    rw [load_eq_ok_iff.mpr ⟨root, holds, given⟩]
    rfl

end Settings

/-- For every usable document or none, and every environment, each setting has the value of the
    strongest layer that has one. Where the environment has no valid value for a setting it leaves
    it, and only the setting's own variable matters to it. To override twice is to override once. A
    file that is named gives the settings of its document, and where none is named that file is the
    first usable one. -/
theorem settings_come_in_layers :
    (∀ (file : Option Toml.Entries) (base : Settings), Settings.base? file = some base →
      ∀ (env : Environment) (α : Type) (setting : Setting α) (value : α),
        setting.get (base.override env) = value ↔ setting.Layered env file value) ∧
    (∀ (env env' : Environment) (settings : Settings) (α : Type) (setting : Setting α),
      ((∀ value, ¬setting.Overrides env value) →
        setting.get (settings.override env) = setting.get settings) ∧
      ((∀ name ∈ setting.envName?, env name = env' name) →
        setting.get (settings.override env) = setting.get (settings.override env')) ∧
      (settings.override env).override env = settings.override env) ∧
    ∀ (env : Environment) (files : Files),
      (∀ path settings, Settings.loadWith env files path = .ok settings ↔
        ∃ root base, Settings.Holds files path root ∧ Settings.base? (some root) = some base ∧
          settings = base.override env) ∧
      ∀ home, ∃ file base, Settings.Chosen files (Settings.places home) file ∧
        Settings.base? file = some base ∧
        Settings.loadFirst env files (Settings.places home) = base.override env := by
  refine ⟨fun file base given env α setting value => Settings.get_override_iff given env setting
    value, fun env env' settings α setting => ⟨?_, ?_, Settings.override_override env settings⟩,
    fun env files => ⟨fun path settings => Settings.loadWith_eq_ok_iff,
      fun home => Settings.loadFirst_chosen env files _⟩⟩
  · intro unset
    rw [setting.get_override, setting.own?_eq_none_iff.mpr unset, Option.getD_none]
  · intro same
    rw [setting.get_override, setting.get_override, setting.own?_congr same]

/-- The environment names a host, and a port that is none, so that the port is the one of the file
    and the room is the default one. -/
theorem settings_come_in_layers_host :
    let file : Toml.Entries := [("server", .table .header [("port", .integer 9000)])]
    let env : Environment := fun name =>
      if name = "ROOMCAST_HOST" then some (Utf8.ofString "::1")
      else if name = "ROOMCAST_PORT" then some (Utf8.ofString "65536")
      else none
    let base : Settings := { server := { port := 9000 } }
    Settings.base? (some file) = some base ∧
      Setting.host.Layered env (some file) "::1" ∧
      Setting.port.Layered env (some file) 9000 ∧
      Setting.defaultRoom.Layered env (some file) "General" ∧
      (∀ value, ¬Setting.port.Overrides env value) ∧
      Setting.port.get (base.override env) = Setting.port.get base := by
  intro file env base
  have given : Settings.base? (some file) = some base := by decide +kernel
  have layered := settings_come_in_layers.1 (some file) base given env
  have frame := (settings_come_in_layers.2.1 env env base Nat .port).1
  have unset : ∀ value, ¬Setting.port.Overrides env value := by
    rw [← Setting.own?_eq_none_iff]
    decide +kernel
  refine ⟨given, (layered _ .host _).mp ?_, (layered _ .port _).mp ?_,
    (layered _ .defaultRoom _).mp ?_, unset, frame unset⟩
  all_goals decide +kernel

end ChatRelay
