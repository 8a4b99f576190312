import ChatRelay.Http.Request
import ChatRelay.Text.Digits

/-! # Requests and answers on the wire

The head of a request is a line with the method, the target and the version of the protocol, and
then a line for each header; an empty line ends it. A body follows if its length is announced. An
answer is written in the same form.
-/

namespace ChatRelay.Http

namespace Wire

/-- Longest head in bytes. -/
def headLimit : Nat := 65536

/-- What stands before the first empty line, and what follows it. -/
def splitHead? : Bytes → Option (Bytes × Bytes)
  | 0x0D :: 0x0A :: 0x0D :: 0x0A :: rest => some ([], rest)
  | b :: rest => (splitHead? rest).map fun (head, rest) => (b :: head, rest)
  | [] => none

/-- The lines of a head. -/
def lines (head : Bytes) : List Bytes :=
  (head.splitOn 0x0A).map fun line => if line.getLast? = some 0x0D then line.dropLast else line

/-- A text without spaces and tabs at its ends. -/
def trim (data : Bytes) : Bytes :=
  let isSpace (b : UInt8) : Bool := b == 0x20 || b == 0x09
  ((data.dropWhile isSpace).reverse.dropWhile isSpace).reverse

/-- The name and the value of a header. -/
def header? (line : Bytes) : Option (String × String) :=
  match line.dropWhile (· != 0x3A) with
  | _ :: value => do
    return (← Utf8.toString? (line.takeWhile (· != 0x3A)), ← Utf8.toString? (trim value))
  | [] => none

/-- A request that may lead to another protocol, from its head. -/
def request? (head : Bytes) : Option Request :=
  match lines head with
  | [] => none
  | first :: rest =>
    match first.splitOn 0x20 with
    | [method, target, _] => do
      let headers ← rest.mapM header?
      Request.make? (← Utf8.toString? method) target headers true
    | _ => none

/-- The number of bytes that follow the head. -/
def bodyLength (request : Request) : Nat :=
  ((request.header? "content-length").bind fun text => Text.natural? text.toList).getD 0

/-- Whether the connection is used for one request only. -/
def isLast (request : Request) : Bool :=
  lowerCase ((request.header? "connection").getD "") == "close"

/-- The words that go with a status. -/
def reason (status : Nat) : String :=
  match status with
  | 101 => "Switching Protocols"
  | 200 => "OK"
  | 400 => "Bad Request"
  | 404 => "Not Found"
  | 405 => "Method Not Allowed"
  | 426 => "Upgrade Required"
  | 500 => "Internal Server Error"
  | 503 => "Service Unavailable"
  | _ => ""

/-- The first line and the headers of an answer, with the empty line after them. -/
def head (status : Nat) (headers : List (String × String)) : Bytes :=
  let lines := s!"HTTP/1.1 {status} {reason status}" ::
    headers.map fun (name, value) => name ++ ": " ++ value
  Utf8.ofString (String.join (lines.map (· ++ "\r\n")) ++ "\r\n")

/-- An answer. -/
def response (response : Response) : Bytes :=
  let body := response.body.bytes
  head response.status (response.headers ++ [("content-length", toString body.length)]) ++ body

/-- The answer that opens a WebSocket, given the token for its key. -/
def upgrade (token : String) : Bytes :=
  head 101 [("connection", "upgrade"), ("upgrade", "websocket"), ("sec-websocket-accept", token)]

end Wire
end ChatRelay.Http
