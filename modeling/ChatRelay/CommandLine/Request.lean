import ChatRelay.CommandLine.Help
import ChatRelay.Config.Loading
import ChatRelay.Config.Template
import ChatRelay.Fanout.Naming

/-! # The command line

What the arguments of the program ask for. They are read from left to right, and the first one that
asks for help or is wrong decides. An option's value is given in its argument or is the next one; a
next argument that starts with a dash is no value.
-/

namespace ChatRelay

/-- Why the arguments ask for nothing. -/
inductive Misuse where
  | noCommand
  | unexpected (argument : String)
  | noValue (name : String)
  | badValue (name value : String)
  | repeated (name : String)
  deriving Repr, DecidableEq

/-- What is wrong, in words. -/
def Misuse.message : Misuse → String
  | .noCommand => "no command is given"
  | .unexpected argument => "unexpected argument " ++ argument
  | .noValue name => "no value for --" ++ name
  | .badValue name value => "invalid value for --" ++ name ++ ": " ++ value
  | .repeated name => "--" ++ name ++ " is given twice"

/-- Options of the command that runs the server. -/
structure ServeOptions where
  config : Option String := none
  port : Option Nat := none
  deriving Repr, DecidableEq

/-- What the program is asked to do. -/
inductive CliRequest where
  | help (page : HelpPage)
  | version
  /-- Print a settings file. -/
  | template
  | serve (options : ServeOptions)
  deriving Repr, DecidableEq

/-- The name of an option that takes a value. -/
inductive ServeOption where
  | config
  | port
  deriving Repr, DecidableEq

namespace ServeOption

/-- The name of an option. -/
def name : ServeOption → String
  | config => "config"
  | port => "port"

/-- The option with a name. -/
def ofName? (name : String) : Option ServeOption :=
  if name == "config" then some config else if name == "port" then some port else none

/-- The option with a letter. -/
def ofLetter? (letter : Char) : Option ServeOption :=
  if letter == 'c' then some config else if letter == 'p' then some port else none

end ServeOption

/-- An argument, taken apart. -/
inductive Argument where
  /-- It is not an option. -/
  | plain
  /-- Two dashes alone: options end here. -/
  | separator
  /-- Two dashes, a name, and perhaps a value after an equals sign. -/
  | long (name : String) (value : Option String)
  /-- A dash, a letter, and what follows it. -/
  | short (letter : Char) (rest : List Char)
  deriving Repr, DecidableEq

namespace Argument

/-- Take an argument apart. -/
def ofText (text : String) : Argument :=
  match text.toList with
  | ['-', '-'] => .separator
  | '-' :: '-' :: rest =>
    let value := rest.dropWhile (· != '=')
    .long (String.ofList (rest.takeWhile (· != '=')))
      (if value.isEmpty then none else some (String.ofList (value.drop 1)))
  | '-' :: letter :: rest => .short letter rest
  | _ => .plain

/-- Whether an argument can be the value of an option before it. -/
def isValue (text : String) : Bool := text.toList.head? != some '-' || text == "-"

/-- Whether an argument asks for help. -/
def isHelp : Argument → Bool
  | .long name value => name == "help" && value.isNone
  | .short letter _ => letter == 'h'
  | _ => false

end Argument

namespace ServeOptions

/-- A port: a number of sixteen bits, perhaps with a sign. -/
def port? (text : String) : Option Nat :=
  ((Text.integer? text.toList).filter fun n => 0 ≤ n && n ≤ 65535).map Int.toNat

/-- Give an option its value. -/
def set (options : ServeOptions) (option : ServeOption) (value : String) :
    Except Misuse ServeOptions :=
  match option with
  | .config =>
    if value.isEmpty then .error (.noValue option.name)
    else if options.config.isSome then .error (.repeated option.name)
    else .ok { options with config := some value }
  | .port =>
    match port? value with
    | none => .error (.badValue option.name value)
    | some port =>
      if options.port.isSome then .error (.repeated option.name)
      else .ok { options with port := some port }

/-- The option that an argument names, with the value in the argument, if there is one. -/
def named? : Argument → Option (ServeOption × Option String)
  | .long name value => (ServeOption.ofName? name).map (·, value)
  | .short letter rest =>
    (ServeOption.ofLetter? letter).map fun option =>
      (option, if rest.isEmpty then none
        else some (String.ofList ((dropStart? ['='] rest).getD rest)))
  | _ => none

/-- Read the arguments of the command that runs the server; `awaiting` is an option without a value
    so far. -/
def read (options : ServeOptions) (awaiting : Option ServeOption) :
    List String → Except Misuse CliRequest
  | [] =>
    match awaiting with
    | some option => .error (.noValue option.name)
    | none => .ok (.serve options)
  | text :: rest =>
    match awaiting with
    | some option =>
      if Argument.isValue text then
        match options.set option text with
        | .ok options => read options none rest
        | .error misuse => .error misuse
      else .error (.noValue option.name)
    | none =>
      let argument := Argument.ofText text
      if argument.isHelp then .ok (.help .serve)
      else if argument = .separator ∧ rest = [] then .ok (.serve options)
      else
        match named? argument with
        | none => .error (.unexpected text)
        | some (option, none) => read options (some option) rest
        | some (option, some value) =>
          match options.set option value with
          | .ok options => read options none rest
          | .error misuse => .error misuse

/-- The settings of a server that is run with these options. -/
def settings (options : ServeOptions) (env : Environment) (files : Files) (home : Option String) :
    Except ConfigError Settings :=
  let loaded := match options.config with
    | some path => Settings.loadWith env files path
    | none => .ok (Settings.loadFirst env files (Settings.places home))
  loaded.map fun settings =>
    { settings with
      server := { settings.server with port := options.port.getD settings.server.port } }

end ServeOptions

namespace CliRequest

/-- Read the arguments of the command that prints a settings file. -/
def ofConfigArgs : List String → Except Misuse CliRequest
  | [] | ["--"] => .ok .template
  | text :: _ =>
    if (Argument.ofText text).isHelp then .ok (.help .config) else .error (.unexpected text)

/-- Read the arguments of the command that prints help. -/
def ofHelpArgs : List String → Except Misuse CliRequest
  | [] => .ok (.help .overview)
  | [name] =>
    match HelpPage.ofCommand? name with
    | some page => .ok (.help page)
    | none => .error (.unexpected name)
  | _ :: extra :: _ => .error (.unexpected extra)

/-- Read the arguments of the program. -/
def ofArgs : List String → Except Misuse CliRequest
  | [] => .error .noCommand
  | "serve" :: rest => ServeOptions.read {} none rest
  | "config" :: rest => ofConfigArgs rest
  | "help" :: rest => ofHelpArgs rest
  | text :: _ =>
    let argument := Argument.ofText text
    if argument.isHelp then .ok (.help .overview)
    else
      match argument with
      | .long "version" none => .ok .version
      | .short 'V' _ => .ok .version
      | _ => .error (.unexpected text)

/-- What the program prints, if that is all it is asked to do. -/
def text? : CliRequest → Option String
  | .help page => some page.text
  | .version => some versionText
  | .template => some Settings.template
  | .serve _ => none

end CliRequest
end ChatRelay
