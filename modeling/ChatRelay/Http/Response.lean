import ChatRelay.Json.Printer

/-! # Answers to requests

An answer has a status, headers with lower-case names, and a body. Bodies that are JSON or metrics
are kept as values, so that they can be looked at as well as sent.
-/

namespace ChatRelay.Http

/-- The body of an answer. -/
inductive Body where
  | empty
  | text (content : String)
  | json (value : Json.Value)
  /-- The lines of published metrics. -/
  | lines (all : List String)
  deriving Repr

/-- The bytes of a body. -/
def Body.bytes : Body → Bytes
  | .empty => []
  | .text content => Utf8.ofString content
  | .json value => Json.print value
  | .lines all => Utf8.ofString (String.join (all.map (· ++ "\n")))

/-- An answer. -/
structure Response where
  status : Nat
  headers : List (String × String) := []
  body : Body := .empty
  deriving Repr

namespace Response

/-- An answer without a body. -/
def empty (status : Nat) : Response := { status }

/-- An answer in plain text. -/
def plain (status : Nat) (content : String) : Response :=
  { status, headers := [("content-type", "text/plain; charset=utf-8")], body := .text content }

/-- An answer in JSON. -/
def json (status : Nat) (fields : List (String × Json.Value)) : Response :=
  { status, headers := [("content-type", "application/json")]
    body := .json (.object (Json.Fields.ofList fields)) }

end Response
end ChatRelay.Http
