import ChatRelay.Config.Loading
import ChatRelay.Redis.Address
import ChatRelay.Server.State

/-! # Starting a server

Not all settings are those of a server that can start: its address has to be one of this machine,
the address of Redis has to be readable where Redis is used, and no queue may be larger than queues
can be.
-/

namespace ChatRelay

/-- Why a server does not start. -/
inductive LaunchError where
  | config (fault : ConfigError)
  | redisAddress (text : String)
  | capacity (asked : Nat)
  | host (name : String)
  deriving Repr, DecidableEq

namespace LaunchError

/-- What is wrong, in words. -/
def message : LaunchError → String
  | config fault => fault.message
  | redisAddress text => "invalid Redis address " ++ Text.quoted text
  | capacity asked => "no queue has room for " ++ toString asked
  | host name => "cannot listen on " ++ Text.quoted name

/-- The exit code of the program. -/
def code : LaunchError → UInt8
  | capacity _ => 101
  | _ => 1

end LaunchError

/-- Most elements that any queue can have room for. -/
def greatestQueue : Nat := 2305843009213693951

/-- A text without brackets around it, if it has them. -/
def withoutBrackets (text : List Char) : List Char :=
  match text with
  | '[' :: rest => if rest.getLast? == some ']' then rest.dropLast else text
  | _ => text

/-- Whether a machine can listen on a host. A machine answers to addresses of the old kind, in the
    new kind only to all of its own or to one that wraps one of the old kind, and to the name that
    every machine has for itself, in letters of either case. -/
def isListenHost (host : String) : Bool :=
  let text := host.toList
  (Text.looseAddress? text).isSome || text.map Char.toLower == "localhost".toList ||
    (Text.zonedGroups? (withoutBrackets text)).any Text.isUniversal

/-- Why a server with these settings does not start, if so. -/
def Settings.launchFault? (settings : Settings) : Option LaunchError :=
  let redis := settings.redis
  if redis.enabled && (RedisAddress.ofText? redis.url).isNone then some (.redisAddress redis.url)
  else if redis.enabled && greatestQueue < redis.queueCapacity then
    some (.capacity redis.queueCapacity)
  else if greatestQueue < settings.hub.commandCapacity then
    some (.capacity settings.hub.commandCapacity)
  else if !isListenHost settings.server.host then some (.host settings.server.host)
  else none

/-- The settings of a server that starts. -/
def Settings.launchable (loaded : Except ConfigError Settings) : Except LaunchError Settings :=
  match loaded with
  | .error fault => .error (.config fault)
  | .ok settings =>
    match settings.launchFault? with
    | some fault => .error fault
    | none => .ok settings

/-- A server as it starts. Its bridge is not connected yet, and presence in Redis cannot be read
    before it is. -/
def Settings.launch (settings : Settings) (id : InstanceId) : Server :=
  let redis := settings.redis
  let remotePresence := redis.enabled && redis.presence
  { node := { Node.start id settings.hub with
      naming := redis.naming
      outbox := if redis.enabled then some (.ofCapacity redis.queueCapacity) else none
      presence := if remotePresence then none else some {}
      metrics := some {} }
    settings := settings.server
    bridge := if redis.enabled then some {} else none
    presenceFault :=
      if remotePresence then some (.unavailable (.timeout redis.opTimeout)) else none }

end ChatRelay
