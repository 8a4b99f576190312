import ChatRelay.Number.Binary64

/-! # TOML values

A TOML document is a tree of tables. A table may be written in several places, and what may still be
added to it depends on how it came to be, so every table keeps its standing. Entries are in the
order in which they were written, each name once.
-/

namespace ChatRelay.Toml

/-- How a table came to be. -/
inductive Standing where
  /-- It has a header of its own. -/
  | header
  /-- Only headers of tables inside it were seen. -/
  | passed
  /-- Dotted keys made it. -/
  | dotted
  /-- It was written between braces and is complete. -/
  | closed
  deriving Repr, DecidableEq

/-- A TOML value. -/
inductive Value where
  | string (text : String)
  | integer (n : Int)
  /-- A binary fraction; nothing for the infinities and for what is not a number. -/
  | real (x : Option Binary64)
  | bool (b : Bool)
  /-- A date, a time of day, or both, as it is written. -/
  | moment (text : String)
  | array (items : List Value)
  | table (standing : Standing) (entries : List (String × Value))
  /-- Tables that share a doubly bracketed header. -/
  | tables (items : List (List (String × Value)))
  deriving Repr, Inhabited

/-- Entries of a table. -/
abbrev Entries := List (String × Value)

namespace Entries

/-- Set an entry, in its old place if there is one. -/
def put (name : String) (value : Value) : Entries → Entries
  | [] => [(name, value)]
  | (key, old) :: rest =>
    if key = name then (name, value) :: rest else (key, old) :: put name value rest

/-- Add an entry, unless the name is taken. -/
def add? (name : String) (value : Value) (entries : Entries) : Option Entries :=
  if (entries.lookup name).isSome then none else some (entries ++ [(name, value)])

end Entries
end ChatRelay.Toml
