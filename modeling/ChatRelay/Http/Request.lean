import ChatRelay.Http.Form
import ChatRelay.Http.Response
import ChatRelay.Http.Target

/-! # Requests

A request has a method, a target and headers. Header names are compared without regard to case.
-/

namespace ChatRelay.Http

/-- A text with its ASCII letters in lower case. -/
def lowerCase (text : String) : String := String.ofList (text.toList.map Char.toLower)

/-- A request. -/
structure Request where
  method : String
  target : Target
  headers : List (String × String) := []
  /-- Whether the connection could be used for another protocol after the answer. -/
  upgradable : Bool := false
  deriving Repr

namespace Request

/-- The value of the first header with a name, given in lower case. -/
def header? (request : Request) (name : String) : Option String :=
  (request.headers.find? fun (key, _) => lowerCase key == name).map Prod.snd

/-- The parameters of the query. -/
def parameters (request : Request) : List (String × String) :=
  formPairs (request.target.query.getD [])

/-- The characters of method names. -/
def isTokenChar (c : Char) : Bool := c.isAlphanum || "!#$%&'*+-.^_`|~".toList.contains c

/-- Whether a text may be a method or the name of a header. -/
def isToken (text : String) : Bool := !text.isEmpty && text.toList.all isTokenChar

/-- The characters of header values: everything but control characters of ASCII other than the
    tab. -/
def isValueChar (c : Char) : Bool := c == '\t' || (0x20 ≤ c.toNat && c.toNat ≠ 0x7F)

/-- Put a request together, if its method, its target and its headers are well formed. -/
def make? (method : String) (target : Bytes) (headers : List (String × String))
    (upgradable : Bool) : Option Request :=
  if isToken method && headers.all fun (name, value) => isToken name && value.toList.all isValueChar
  then (Target.ofBytes? target).map fun target => { method, target, headers, upgradable }
  else none

end Request
end ChatRelay.Http
