import ChatRelay.Number.Binary64

/-! # JSON values

A JSON value, with integers kept apart from other numbers and every object as a list of fields in
ascending order of their names, each name once. `Fields` has the operations on such lists.
-/

namespace ChatRelay.Json

/-- A number: an integer of 64 bits, signed or not, or a binary fraction. -/
inductive Number where
  | integer (n : Int)
  | real (x : Binary64)
  deriving Repr, DecidableEq

/-- A JSON value. -/
inductive Value where
  | null
  | bool (b : Bool)
  | number (n : Number)
  | string (text : String)
  | array (items : List Value)
  | object (fields : List (String × Value))
  deriving Repr, Inhabited

/-- Fields of an object, ascending by name. -/
abbrev Fields := List (String × Value)

namespace Fields

/-- Value of the field with a name. -/
def get? (name : String) : Fields → Option Value
  | [] => none
  | (key, value) :: rest => if key = name then some value else get? name rest

/-- Set a field, keeping the names ascending and distinct. -/
def insert (name : String) (value : Value) : Fields → Fields
  | [] => [(name, value)]
  | (key, old) :: rest =>
    if name < key then (name, value) :: (key, old) :: rest
    else if name = key then (name, value) :: rest
    else (key, old) :: insert name value rest

/-- The object that results from setting fields one after the other. -/
def ofList (fields : List (String × Value)) : Fields :=
  fields.foldl (fun acc (name, value) => acc.insert name value) []

/-- Remove a field, if it is there. -/
def erase (name : String) (fields : Fields) : Fields :=
  fields.filter fun (key, _) => key ≠ name

end Fields

mutual

/-- Equality of values; the order of fields counts for nothing, as it is always the same. -/
def Value.same : Value → Value → Bool
  | .null, .null => true
  | .bool a, .bool b => a == b
  | .number a, .number b => a == b
  | .string a, .string b => a == b
  | .array a, .array b => sameItems a b
  | .object a, .object b => sameFields a b
  | _, _ => false

/-- Equality of lists of values. -/
def sameItems : List Value → List Value → Bool
  | [], [] => true
  | a :: as, b :: bs => a.same b && sameItems as bs
  | _, _ => false

/-- Equality of lists of fields. -/
def sameFields : List (String × Value) → List (String × Value) → Bool
  | [], [] => true
  | (k, a) :: as, (l, b) :: bs => k == l && a.same b && sameFields as bs
  | _, _ => false

end

end ChatRelay.Json
