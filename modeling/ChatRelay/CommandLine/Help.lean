/-! # Help texts

What the program says about its commands and about itself.
-/

namespace ChatRelay

/-- What help can be asked for. -/
inductive HelpPage where
  | overview
  | serve
  | config
  | help
  deriving Repr, DecidableEq

namespace HelpPage

/-- The page about a command. -/
def ofCommand? (name : String) : Option HelpPage :=
  if name == "serve" then some serve
  else if name == "config" then some config
  else if name == "help" then some help
  else none

/-- What a page is about. -/
def about : HelpPage → String
  | overview => "Real-time chat room fanout hub"
  | serve => "Run the WebSocket server"
  | config => "Print a default configuration file"
  | help => "Print this message or the help of the given subcommand(s)"

/-- How the program is called. -/
def usage : HelpPage → String
  | overview => "roomcast <COMMAND>"
  | serve => "roomcast serve [OPTIONS]"
  | config => "roomcast config"
  | help => "roomcast help [COMMAND]..."

/-- Lists of commands, options or arguments with their meanings. -/
def details : HelpPage → String
  | overview =>
    "Commands:\n" ++
    "  serve   " ++ serve.about ++ "\n" ++
    "  config  " ++ config.about ++ "\n" ++
    "  help    " ++ help.about ++ "\n" ++
    "\n" ++
    "Options:\n" ++
    "  -h, --help     Print help\n" ++
    "  -V, --version  Print version\n"
  | serve =>
    "Options:\n" ++
    "  -c, --config <CONFIG>  Path to a TOML configuration file\n" ++
    "  -p, --port <PORT>      Override the listen port\n" ++
    "  -h, --help             Print help\n"
  | config =>
    "Options:\n" ++
    "  -h, --help  Print help\n"
  | help =>
    "Arguments:\n" ++
    "  [COMMAND]...  Print help for the subcommand(s)\n"

/-- A page. -/
def text (page : HelpPage) : String :=
  page.about ++ "\n\nUsage: " ++ page.usage ++ "\n\n" ++ page.details

end HelpPage

/-- The name and the version of the program. -/
def versionText : String := "roomcast 0.1.0\n"

end ChatRelay
