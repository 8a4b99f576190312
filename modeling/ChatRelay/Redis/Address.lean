import ChatRelay.Http.Form
import ChatRelay.Text.NetworkAddress

/-! # Addresses of Redis

Where Redis listens and how to log in is given by one text: a scheme, an authority with the login,
the host and the port, the number of a database as the path, and options as the query. With another
scheme the path names a socket, and the database is an option. `RedisAddress.ofText?` reads such a
text; connections with encryption are refused.
-/

namespace ChatRelay

/-- Where Redis listens. -/
inductive RedisPlace where
  | network (host : String) (port : Nat)
  | socket (path : Bytes)
  deriving Repr, DecidableEq

/-- How to reach Redis. -/
structure RedisAddress where
  place : RedisPlace
  database : Int := 0
  user : Option String := none
  secret : Option String := none
  /-- Version of the protocol. -/
  version : Nat := 2
  deriving Repr, DecidableEq

namespace RedisAddress

/-- The port where none is given. -/
def defaultPort : Nat := 6379

/-- A text without controls and spaces at its ends, and without tabs and line ends. -/
def clean (text : List Char) : List Char :=
  let isEdge (c : Char) : Bool := c.toNat ≤ 0x20
  let inner := ((text.dropWhile isEdge).reverse.dropWhile isEdge).reverse
  inner.filter fun c => c != '\t' && c != '\n' && c != '\r'

/-- The scheme in lower case, and what follows its colon. -/
def scheme? (text : List Char) : Option (String × List Char) :=
  let inScheme (c : Char) : Bool := c.isAlphanum || c == '+' || c == '-' || c == '.'
  let name := text.takeWhile inScheme
  match name.head?, text.dropWhile inScheme with
  | some first, ':' :: rest =>
    if first.isAlpha then some (String.ofList (name.map Char.toLower), rest) else none
  | _, _ => none

/-- A text cut before the first character of a kind. -/
def cut (isMark : Char → Bool) (text : List Char) : List Char × List Char :=
  (text.takeWhile fun c => !isMark c, text.dropWhile fun c => !isMark c)

/-- What follows the two slashes in front, if there are any. -/
def dropSlashes? : List Char → Option (List Char)
  | '/' :: '/' :: rest => some rest
  | _ => none

/-! ## The authority -/

/-- The login and the rest, which follows the last at sign. -/
def splitLogin (authority : List Char) : List Char × List Char :=
  let (rest, login) := cut (· == '@') authority.reverse
  ((login.drop 1).reverse, rest.reverse)

/-- The host, and what follows it from the first colon on that is not in brackets. -/
def splitHost (bracketed : Bool) : List Char → List Char × List Char
  | [] => ([], [])
  | c :: rest =>
    if c == ':' && !bracketed then ([], c :: rest)
    else
      let bracketed := c == '[' || (bracketed && c != ']')
      let (host, port) := splitHost bracketed rest
      (c :: host, port)

/-- Characters that no host has outside brackets. -/
def hostForbidden : List Char :=
  ['\x00', '\t', '\n', '\r', ' ', '#', '/', ':', '<', '>', '?', '@', '[', '\\', ']', '^', '|']

/-- Whether a text can be a host. -/
def isHost (host : List Char) : Bool :=
  match host with
  | [] => false
  | '[' :: rest => rest.getLast? == some ']' && Text.isColonSeparated rest.dropLast
  | _ => host.all fun c => !hostForbidden.contains c

/-- The port in the text that follows a host, and what comes after it. That is nothing or, from a
    backslash on, the beginning of the path. -/
def port? (text : List Char) : Option (Nat × List Char) :=
  let digits := (text.drop 1).takeWhile Char.isDigit
  let rest := (text.drop 1).dropWhile Char.isDigit
  let port := if digits.isEmpty then defaultPort else Text.digitsValue 0 digits
  if port ≤ 65535 && (rest.isEmpty || rest.head? == some '\\') then some (port, rest) else none

/-- A path that begins before its first slash. -/
def joinPath (start path : List Char) : List Char :=
  if start.isEmpty then path else '/' :: start ++ path

/-- Part of a login: nothing if it is empty, and a fault if it is no valid text. -/
def loginPart? (text : List Char) : Option (Option String) :=
  if text.isEmpty then some none
  else (Utf8.toString? (Http.percentDecode (Utf8.encode text))).map some

/-! ## The path -/

/-- Whether a part of a path stands for this directory. -/
def isHere (part : List Char) : Bool :=
  [".", "%2e"].contains (String.ofList (part.map Char.toLower))

/-- Whether a part of a path stands for the directory above. -/
def isAbove (part : List Char) : Bool :=
  ["..", ".%2e", "%2e.", "%2e%2e"].contains (String.ofList (part.map Char.toLower))

/-- Whether a part of a path names a drive. -/
def isDrive (part : List Char) : Bool :=
  match part with
  | [letter, mark] => letter.isAlpha && (mark == ':' || mark == '|')
  | _ => false

/-- What is left of the parts so far, the last one first, after a step to the directory above. There
    is no step out of a drive. -/
def stepUp (done : List (List Char)) : List (List Char) :=
  match done with
  | [] => []
  | last :: before => if isDrive last then done else before

/-- The parts of a path, with those that move in it carried out; `done` has the parts so far, the
    last one first. -/
def resolveParts (done : List (List Char)) : List (List Char) → List (List Char)
  | [] => done.reverse
  | part :: rest =>
    if isAbove part then
      resolveParts (if rest.isEmpty then [] :: stepUp done else stepUp done) rest
    else if isHere part then resolveParts (if rest.isEmpty then [] :: done else done) rest
    else resolveParts (part :: done) rest

/-- The parts of a path that starts with a slash. -/
def pathParts (path : List Char) : List (List Char) := resolveParts [] ((path.drop 1).splitOn '/')

/-- The number of a database. -/
def database? (text : List Char) : Option Int := (Text.integer? text).filter Text.isWord

/-- The database that a path names. -/
def pathDatabase? (path : List Char) : Option Int :=
  match (pathParts path).filter fun part => !part.isEmpty with
  | [] => some 0
  | [part] => database? part
  | _ => none

/-! ## The query -/

/-- The last value of an option. -/
def option? (options : List (String × String)) (name : String) : Option String :=
  options.reverse.lookup name

/-- The version of the protocol that the options ask for. -/
def version? (options : List (String × String)) : Option Nat :=
  match option? options "protocol" with
  | none => some 2
  | some value =>
    if value == "2" || value == "resp2" then some 2
    else if value == "3" || value == "resp3" then some 3
    else none

/-! ## The whole -/

/-- An address in the network. -/
def ofNetwork? (authority path : List Char) (options : List (String × String)) :
    Option RedisAddress := do
  let (login, server) := splitLogin authority
  let (user, secret) := cut (· == ':') login
  let (host, port) := splitHost false server
  let (port, start) ← port? port
  if isHost host then
    return {
      place := .network (String.ofList host) port
      database := ← pathDatabase? (joinPath start path)
      user := ← loginPart? user
      secret := ← loginPart? (secret.drop 1)
      version := ← version? options }
  else none

/-- What follows an authority that means this machine: the beginning of the path, if there is one.
    Such an authority is empty, perhaps with an empty login, or it names this machine. -/
def afterLocal? (authority : List Char) : Option (List Char) :=
  let (host, port) := splitHost false (splitLogin authority).2
  if authority.isEmpty || authority == [':', '@'] then some []
  else if host == "localhost".toList then (port? port).map Prod.snd
  else none

/-- A socket of this machine. -/
def ofSocket? (authority path : List Char) (options : List (String × String)) :
    Option RedisAddress := do
  let path := joinPath (← afterLocal? authority) path
  if path.isEmpty then none
  else
    let parts := (pathParts path).map fun part => Http.percentDecode (Utf8.encode part)
    return {
      place := .socket (parts.flatMap (0x2F :: ·))
      database := ← ((option? options "db").map fun text => database? text.toList).getD (some 0)
      user := option? options "user"
      secret := option? options "pass"
      version := ← version? options }

/-- Read an address. -/
def ofText? (text : String) : Option RedisAddress := do
  let (scheme, rest) ← scheme? (clean text.toList)
  let (rest, _) := cut (· == '#') rest
  let (rest, query) := cut (· == '?') rest
  let options := Http.formPairs (Utf8.encode (query.drop 1))
  match scheme, dropSlashes? rest with
  | "redis", some rest =>
    let (authority, path) := cut (· == '/') rest
    ofNetwork? authority path options
  | "unix", some rest | "redis+unix", some rest =>
    let (authority, path) := cut (· == '/') rest
    ofSocket? authority path options
  | "unix", none | "redis+unix", none =>
    if rest.head? = some '/' then ofSocket? [] rest options else none
  | _, _ => none

end RedisAddress
end ChatRelay
