import ChatRelay.Hub.Node
import ChatRelay.Time.Span

/-! # Settings

Everything that an operator may set, with the values that hold where nothing is set.
-/

namespace ChatRelay

/-- Where the server listens, and the room of connections that name none. -/
structure ServerSettings where
  host : String := "0.0.0.0"
  port : Nat := 8000
  defaultRoom : String := "General"
  deriving Repr, DecidableEq

namespace ServerSettings

/-- The address to listen on. -/
def address (server : ServerSettings) : String := server.host ++ ":" ++ toString server.port

/-- The room of a connection that asks for `requested`. The empty name counts as none. -/
def resolveRoom (server : ServerSettings) (requested : Option String) : String :=
  match requested with
  | some room => if room.isEmpty then server.defaultRoom else room
  | none => server.defaultRoom

end ServerSettings

/-- How instances are linked through Redis. -/
structure RedisSettings where
  enabled : Bool := false
  url : String := "redis://127.0.0.1:6379"
  /-- What the channel of every room begins with. -/
  channelStart : String := "chat:"
  /-- Key of the set of active rooms. -/
  roomsKey : String := "rooms"
  /-- Key of the hash of member counts by room. -/
  membersKey : String := "room:members"
  /-- Longest time that one operation may take, in milliseconds. -/
  opTimeoutMs : Nat := 500
  /-- Publications or presence changes that may wait. -/
  queueCapacity : Nat := 1024
  /-- Whether presence is kept in Redis too. -/
  presence : Bool := true
  deriving Repr, DecidableEq

namespace RedisSettings

/-- Longest time that one operation may take. -/
def opTimeout (redis : RedisSettings) : Span := .ofMillis redis.opTimeoutMs

/-- How rooms are named as channels. -/
def naming (redis : RedisSettings) : ChannelNaming := ⟨redis.channelStart⟩

end RedisSettings

/-- What is written to the log, and how. -/
structure LoggingSettings where
  level : String := "info"
  format : String := "pretty"
  deriving Repr, DecidableEq

namespace LoggingSettings

/-- Whether log lines are JSON: the format is that word in any mix of ASCII cases. -/
def isJson (logging : LoggingSettings) : Bool :=
  logging.format.toList.map Char.toLower == ['j', 's', 'o', 'n']

end LoggingSettings

/-- All settings. -/
structure Settings where
  server : ServerSettings := {}
  hub : HubConfig := {}
  redis : RedisSettings := {}
  logging : LoggingSettings := {}
  deriving Repr, DecidableEq

end ChatRelay
