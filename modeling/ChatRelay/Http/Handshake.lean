import ChatRelay.Http.Request

/-! # Opening a WebSocket

A request for a WebSocket connection is checked in a fixed order, and the first thing that is
missing decides the answer. Only after that are the parameters of the query looked at.
-/

namespace ChatRelay.Http.Handshake

/-- Why no WebSocket connection is opened. -/
inductive Refusal where
  | method
  | connection
  | upgrade
  | version
  | key
  /-- The connection cannot change its protocol. -/
  | fixedProtocol
  /-- The room is named more than once. -/
  | repeatedRoom
  deriving Repr, DecidableEq

def Refusal.status : Refusal → Nat
  | .method => 405
  | .fixedProtocol => 426
  | _ => 400

/-- What is wrong, in words. -/
def Refusal.message : Refusal → String
  | .method => "Request method must be `GET`"
  | .connection => "Connection header did not include 'upgrade'"
  | .upgrade => "`Upgrade` header did not include 'websocket'"
  | .version => "`Sec-WebSocket-Version` header did not include '13'"
  | .key => "`Sec-WebSocket-Key` header missing"
  | .fixedProtocol => "WebSocket request couldn't be upgraded since no upgrade state was present"
  | .repeatedRoom => "Failed to deserialize query string: duplicate field `room`"

/-- The answer to a request that is refused. -/
def Refusal.response (refusal : Refusal) : Response := .plain refusal.status refusal.message

/-- Whether a text contains another one. -/
def contains (part : List Char) : List Char → Bool
  | [] => part.isEmpty
  | c :: rest => part.isPrefixOf (c :: rest) || contains part rest

/-- What is wrong with the request itself, if anything. -/
def refusal? (request : Request) : Option Refusal :=
  let value (name : String) : String := lowerCase ((request.header? name).getD "")
  if request.method ≠ "GET" then some .method
  else if !contains "upgrade".toList (value "connection").toList then some .connection
  else if value "upgrade" ≠ "websocket" then some .upgrade
  else if request.header? "sec-websocket-version" ≠ some "13" then some .version
  else if (request.header? "sec-websocket-key").isNone then some .key
  else if !request.upgradable then some .fixedProtocol
  else none

/-- The room that the query names, if it names one; it may name only one. -/
def room? (request : Request) : Except Refusal (Option String) :=
  match request.parameters.filter fun (name, _) => name == "room" with
  | [] => .ok none
  | [(_, room)] => .ok (some room)
  | _ => .error .repeatedRoom

/-- Whether a connection is opened, and the room that it asks for. -/
def accept (request : Request) : Except Refusal (Option String) :=
  match refusal? request with
  | some refusal => .error refusal
  | none => room? request

end ChatRelay.Http.Handshake
