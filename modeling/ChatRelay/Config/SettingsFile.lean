import ChatRelay.Config.Settings
import ChatRelay.Toml.Document

/-! # Settings files

A settings file is a TOML document with one section for each group of settings. What it leaves out
keeps its default, and what it says beyond the settings is ignored, but a setting of the wrong type
or out of range makes the whole file unusable.
-/

namespace ChatRelay.Settings

open Toml (Entries Value)

/-- The entries of a section whose settings have the given names in this order. A section is a
    table, or an array of its settings in order; a date stands for a section without settings. -/
def section? (name : String) (names : List String) (root : Entries) : Option Entries :=
  match root.lookup name with
  | none => some []
  | some (.table _ entries) => some entries
  | some (.array items) => some (names.zip items)
  | some (.tables items) => some (names.zip (items.map (Value.table .header)))
  | some (.moment _) => some []
  | some _ => none

/-- A setting that is a text. -/
def text? (name default : String) (entries : Entries) : Option String :=
  match entries.lookup name with
  | none => some default
  | some (.string text) => some text
  | some _ => none

/-- A setting that is switched on or off. -/
def flag? (name : String) (default : Bool) (entries : Entries) : Option Bool :=
  match entries.lookup name with
  | none => some default
  | some (.bool b) => some b
  | some _ => none

/-- A setting that is a natural number of at most `greatest`. -/
def natural? (name : String) (default greatest : Nat) (entries : Entries) : Option Nat :=
  match entries.lookup name with
  | none => some default
  | some (.integer n) => if 0 ≤ n ∧ n ≤ greatest then some n.toNat else none
  | some _ => none

/-- The greatest port. -/
def greatestPort : Nat := 65535

/-- The greatest number that a settings file can hold. -/
def greatestInteger : Nat := 9223372036854775807

def server? (root : Entries) : Option ServerSettings := do
  let entries ← section? "server" ["host", "port", "default_room"] root
  let base : ServerSettings := {}
  return {
    host := ← text? "host" base.host entries
    port := ← natural? "port" base.port greatestPort entries
    defaultRoom := ← text? "default_room" base.defaultRoom entries }

def hub? (root : Entries) : Option HubConfig := do
  let entries ← section? "hub" ["command_capacity", "outbound_capacity"] root
  let base : HubConfig := {}
  return {
    commandCapacity := ← natural? "command_capacity" base.commandCapacity greatestInteger entries
    outboundCapacity := ←
      natural? "outbound_capacity" base.outboundCapacity greatestInteger entries }

def redis? (root : Entries) : Option RedisSettings := do
  let entries ← section? "redis" ["enabled", "url", "channel_prefix", "rooms_key", "members_key",
    "op_timeout_ms", "queue_capacity", "presence"] root
  let base : RedisSettings := {}
  return {
    enabled := ← flag? "enabled" base.enabled entries
    url := ← text? "url" base.url entries
    channelStart := ← text? "channel_prefix" base.channelStart entries
    roomsKey := ← text? "rooms_key" base.roomsKey entries
    membersKey := ← text? "members_key" base.membersKey entries
    opTimeoutMs := ← natural? "op_timeout_ms" base.opTimeoutMs greatestInteger entries
    queueCapacity := ← natural? "queue_capacity" base.queueCapacity greatestInteger entries
    presence := ← flag? "presence" base.presence entries }

def logging? (root : Entries) : Option LoggingSettings := do
  let entries ← section? "logging" ["level", "format"] root
  let base : LoggingSettings := {}
  return {
    level := ← text? "level" base.level entries
    format := ← text? "format" base.format entries }

/-- The settings that a document gives. -/
def ofToml? (root : Entries) : Option Settings := do
  return {
    server := ← server? root
    hub := ← hub? root
    redis := ← redis? root
    logging := ← logging? root }

/-- The settings that the text of a file gives. -/
def ofText? (text : List Char) : Option Settings := (Toml.document? text).bind ofToml?

end ChatRelay.Settings
