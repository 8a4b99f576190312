/-! # The default settings file

A settings file that says what holds anyway, with a comment on every setting: a start for files of
one's own.
-/

namespace ChatRelay.Settings

/-- The lines of the default settings file. -/
def templateLines : List String := [
  "# Roomcast Configuration",
  "#",
  "# Environment variables override these settings:",
  "# - ROOMCAST_HOST",
  "# - ROOMCAST_PORT",
  "# - ROOMCAST_DEFAULT_ROOM",
  "# - ROOMCAST_OUTBOUND_CAPACITY",
  "# - ROOMCAST_REDIS_URL",
  "# - ROOMCAST_REDIS_ENABLED",
  "# - ROOMCAST_LOG_LEVEL",
  "# - ROOMCAST_LOG_FORMAT",
  "",
  "[server]",
  "# Server host",
  "host = \"0.0.0.0\"",
  "",
  "# Server port",
  "port = 8000",
  "",
  "# Room for connections that do not pass ?room=",
  "default_room = \"General\"",
  "",
  "[hub]",
  "# Pending join/leave/broadcast requests before submitters wait",
  "command_capacity = 4096",
  "",
  "# Per-connection outbound queue bound; a full queue evicts the connection",
  "outbound_capacity = 256",
  "",
  "[redis]",
  "# Enable cross-instance fanout over Redis pub/sub",
  "enabled = false",
  "",
  "# Redis server URL",
  "url = \"redis://127.0.0.1:6379\"",
  "",
  "# Per-room channel is <channel_prefix><room>",
  "channel_prefix = \"chat:\"",
  "",
  "# Track non-empty rooms and member counts in Redis",
  "presence = true",
  "rooms_key = \"rooms\"",
  "members_key = \"room:members\"",
  "",
  "# Upper bound on a single Redis operation (ms)",
  "op_timeout_ms = 500",
  "",
  "# Pending publishes before new ones are dropped",
  "queue_capacity = 1024",
  "",
  "[logging]",
  "# Log level: trace, debug, info, warn, error",
  "level = \"info\"",
  "",
  "# Log format: pretty (for development) or json (for production)",
  "format = \"pretty\""]

/-- The default settings file. -/
def template : String := String.join (templateLines.map (· ++ "\n"))

end ChatRelay.Settings
