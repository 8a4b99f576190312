import ChatRelay.Config.Disk
import ChatRelay.Config.Environment
import ChatRelay.Config.SettingsFile
import ChatRelay.Text.Quoted

/-! # Loading settings

Settings come from a file, from the environment, or from both, the environment being the stronger.
Where no file is named, the first usable one of several places is taken.
-/

namespace ChatRelay

/-- Files by their paths. -/
abbrev Files := String → Except ReadFault Bytes

/-- The text of the file that a path names. -/
def Files.text (files : Files) (path : String) : Except ReadFault (List Char) :=
  match files path with
  | .error fault => .error fault
  | .ok content =>
    match Utf8.decode? content with
    | some text => .ok text
    | none => .error .notText

/-- Why settings cannot be loaded. -/
inductive ConfigError where
  | unreadable (path : String) (fault : ReadFault)
  /-- The text of the file gives no settings. -/
  | unusable (path : String)
  deriving Repr, DecidableEq

/-- What is wrong, in words. -/
def ConfigError.message : ConfigError → String
  | .unreadable path fault =>
    "Failed to read config file " ++ Text.quoted path ++ ": " ++ fault.message
  | .unusable path => "Failed to parse config file " ++ Text.quoted path ++ ": "

namespace Settings

/-- The settings of a file. -/
def load (files : Files) (path : String) : Except ConfigError Settings :=
  match files.text path with
  | .error fault => .error (.unreadable path fault)
  | .ok text =>
    match ofText? text with
    | some settings => .ok settings
    | none => .error (.unusable path)

/-- The settings of the environment alone. -/
def ofEnvironment (env : Environment) : Settings := override env {}

/-- The settings of a file under those of the environment. -/
def loadWith (env : Environment) (files : Files) (path : String) : Except ConfigError Settings :=
  (load files path).map (override env)

/-- Where settings files are looked for, given the directory of the user's settings. -/
def places (home : Option String) : List String :=
  (home.map (· ++ "/roomcast/config.toml")).toList ++
    ["/etc/roomcast/config.toml", "./config.toml"]

/-- The settings of the first usable file, or of no file, under those of the environment. -/
def loadFirst (env : Environment) (files : Files) (paths : List String) : Settings :=
  match paths with
  | [] => ofEnvironment env
  | path :: rest =>
    match loadWith env files path with
    | .ok settings => settings
    | .error _ => loadFirst env files rest

end Settings
end ChatRelay
