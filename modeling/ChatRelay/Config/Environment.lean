import ChatRelay.Config.Settings
import ChatRelay.Text.Digits
import ChatRelay.Text.Utf8

/-! # Settings from the environment

Environment variables override settings, each one setting. A variable whose value is not valid text,
or not valid for its setting, counts as not set.
-/

namespace ChatRelay

/-- The variables that are set, by their names. -/
abbrev Environment := String → Option Bytes

namespace Environment

/-- An environment in which nothing is set. -/
def empty : Environment := fun _ => none

/-- The value of a variable that holds valid text. -/
def text? (env : Environment) (name : String) : Option String := (env name).bind Utf8.toString?

/-- The value of a variable that holds a natural number of at most `greatest`. -/
def natural? (env : Environment) (name : String) (greatest : Nat) : Option Nat :=
  ((env.text? name).bind fun text => Text.natural? text.toList).filter (· ≤ greatest)

/-- The words that switch something off. -/
def offWords : List String := ["false", "0", "no", "off", ""]

/-- Whether a text switches something on: all but a few words do, in any mix of ASCII cases. -/
def isOn (text : String) : Bool :=
  !offWords.contains (String.ofList (text.toList.map Char.toLower))

end Environment

namespace Settings

/-- The greatest value of a capacity in the environment. -/
def greatestCapacity : Nat := 18446744073709551615

/-- The settings with those of the environment in place of their own. -/
def override (env : Environment) (settings : Settings) : Settings where
  server :=
    { host := (env.text? "ROOMCAST_HOST").getD settings.server.host
      port := (env.natural? "ROOMCAST_PORT" 65535).getD settings.server.port
      defaultRoom := ((env.text? "ROOMCAST_DEFAULT_ROOM").filter fun room => !room.isEmpty).getD
        settings.server.defaultRoom }
  hub := { settings.hub with
    outboundCapacity := (env.natural? "ROOMCAST_OUTBOUND_CAPACITY" greatestCapacity).getD
      settings.hub.outboundCapacity }
  redis := { settings.redis with
    url := (env.text? "ROOMCAST_REDIS_URL").getD settings.redis.url
    enabled := ((env.text? "ROOMCAST_REDIS_ENABLED").map Environment.isOn).getD
      settings.redis.enabled }
  logging :=
    { level := (env.text? "ROOMCAST_LOG_LEVEL").getD settings.logging.level
      format := (env.text? "ROOMCAST_LOG_FORMAT").getD settings.logging.format }

end Settings
end ChatRelay
