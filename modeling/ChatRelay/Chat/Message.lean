import ChatRelay.Json.Printer
import ChatRelay.Json.Reader
import ChatRelay.Time.Timestamp

/-! # Chat messages

Clients and server exchange JSON objects. Five fields have a meaning here (what kind of message it
is, its room, its text, who sent it and when); all other fields are kept and written again.

There are two ways to read one: `Message.decode` reads a message straight from its bytes and
refuses a repeated field, while `Message.ofFields?` takes the fields of an object that has already
been read.
-/

namespace ChatRelay

/-- What a client asks for. -/
inductive MessageKind where
  /-- A chat message for the room the client is in. -/
  | message
  /-- Move to the room that is named. -/
  | join
  /-- Anything else: passed on as it is. -/
  | other
  deriving Repr, DecidableEq

/-- The kind that a type field names. -/
def MessageKind.ofType : Option String → MessageKind
  | some "message" => .message
  | some "join" => .join
  | _ => .other

/-- A chat message. `kind` is the text of its type field, empty if there is none. -/
structure Message where
  kind : String
  room : Option String
  content : Option String
  sender : Option String
  timestamp : Option Timestamp
  extra : Json.Fields
  deriving Repr, Inhabited

namespace Message

open Json (Fault Reader Fields Value)

/-- The room that the message names, if it is not the empty one. -/
def targetRoom (m : Message) : Option String := m.room.filter fun room => !room.isEmpty

/-- Pin the message to a room, and to a time if it has none. -/
def stamp (m : Message) (room : String) (now : Timestamp) : Message :=
  { m with room := some room, timestamp := some (m.timestamp.getD now) }

/-! ## Reading from bytes -/

/-- What has been read of a message so far. A field that may be null is `some none` after that. -/
structure Draft where
  kind : Option String := none
  room : Option (Option String) := none
  content : Option (Option String) := none
  sender : Option (Option String) := none
  timestamp : Option (Option Timestamp) := none
  extra : Fields := []
  deriving Inhabited

/-- The message, with the fields that did not occur left out. -/
def Draft.finish (d : Draft) : Message where
  kind := d.kind.getD ""
  room := d.room.join
  content := d.content.join
  sender := d.sender.join
  timestamp := d.timestamp.join
  extra := d.extra

/-- A string value. -/
def readText : Reader String := fun data =>
  match Json.skipBlanks data with
  | 0x22 :: rest => Json.string rest
  | data => Json.refuse data

/-- A string value that is a timestamp. -/
def readTimestamp : Reader Timestamp := fun data => do
  let (text, rest) ← readText data
  match Timestamp.parse? text.toList with
  | some t => .ok (t, rest)
  | none => .error .misfit

/-- A value or null. -/
def orNull (read : Reader α) : Reader (Option α) := fun data =>
  match Json.skipBlanks data with
  | 0x6E :: rest => do
    let ((), rest) ← Json.word [0x75, 0x6C, 0x6C] rest
    .ok (none, rest)
  | data => do
    let (x, rest) ← read data
    .ok (some x, rest)

/-- The colon and the value of a field that must not have occurred before. -/
def once (seen : Option α) (read : Reader α) : Reader α := fun data =>
  match seen with
  | some _ => .error .misfit
  | none => do
    let ((), data) ← Json.colon data
    read data

/-- Add one field to a draft. Its name has just been read. -/
def readField (name : String) (d : Draft) : Reader Draft := fun data =>
  match name with
  | "type" => do
    let (x, rest) ← once d.kind readText data
    .ok ({ d with kind := some x }, rest)
  | "room" => do
    let (x, rest) ← once d.room (orNull readText) data
    .ok ({ d with room := some x }, rest)
  | "content" => do
    let (x, rest) ← once d.content (orNull readText) data
    .ok ({ d with content := some x }, rest)
  | "sender" => do
    let (x, rest) ← once d.sender (orNull readText) data
    .ok ({ d with sender := some x }, rest)
  | "timestamp" => do
    let (x, rest) ← once d.timestamp (orNull readTimestamp) data
    .ok ({ d with timestamp := some x }, rest)
  | name => do
    let ((), data) ← Json.colon data
    let (v, rest) ← Json.value (Json.maxDepth - 1) data
    .ok ({ d with extra := d.extra.insert name v }, rest)

/-- A message at the front of the data. -/
def read : Reader Message := fun data =>
  match Json.skipBlanks data with
  | 0x7B :: rest => do
    let (d, rest) ← Json.fields readField (rest.length + 1) true {} rest
    .ok (d.finish, rest)
  | data => Json.refuse data

/-- Read a message from its bytes. -/
def decode (data : Bytes) : Except Fault Message := Json.document read data

/-! ## Reading from fields -/

/-- The fields that have a meaning of their own. -/
def knownNames : List String := ["type", "room", "content", "sender", "timestamp"]

/-- An optional text field: absent, null or a string. -/
def textField? (name : String) (fields : Fields) : Option (Option String) :=
  match fields.get? name with
  | none => some none
  | some .null => some none
  | some (.string text) => some (some text)
  | some _ => none

/-- The type field: absent or a string. -/
def kindField? (fields : Fields) : Option String :=
  match fields.get? "type" with
  | none => some ""
  | some (.string text) => some text
  | some _ => none

/-- The time field: absent, null or a timestamp. -/
def timestampField? (fields : Fields) : Option (Option Timestamp) := do
  match ← textField? "timestamp" fields with
  | none => return none
  | some text =>
    let t ← Timestamp.parse? text.toList
    return some t

/-- The message that has these fields, if they have the right shapes. -/
def ofFields? (fields : Fields) : Option Message := do
  let kind ← kindField? fields
  let room ← textField? "room" fields
  let content ← textField? "content" fields
  let sender ← textField? "sender" fields
  let timestamp ← timestampField? fields
  let extra := fields.filter fun (name, _) => !knownNames.contains name
  return { kind, room, content, sender, timestamp, extra }

/-! ## Writing -/

/-- An optional text as a list of at most one field. -/
def optionalField (name : String) (text : Option String) : List (String × Value) :=
  match text with
  | some text => [(name, .string text)]
  | none => []

/-- The fields of a message in the order in which they are written: the known ones first. -/
def toFields (m : Message) : List (String × Value) :=
  ("type", .string m.kind) :: optionalField "room" m.room ++
    optionalField "content" m.content ++ optionalField "sender" m.sender ++
    optionalField "timestamp" (m.timestamp.map Timestamp.text) ++ m.extra

/-- The message as JSON. -/
def encode (m : Message) : Bytes := Json.print (.object m.toFields)

/-- Equality of messages. -/
def same (a b : Message) : Bool :=
  a.kind == b.kind && a.room == b.room && a.content == b.content && a.sender == b.sender &&
    a.timestamp == b.timestamp && Json.sameFields a.extra b.extra

end Message
end ChatRelay
