import ChatRelay.Toml.Value

/-! # Building TOML tables

Headers and keys name tables by paths. `Entries.change?` follows a path, makes the tables that do
not exist, and edits the one at its end; the other functions are the edits. Each refuses what the
rules forbid: a table is defined once, dotted keys extend only what dotted keys or longer headers
have made, and nothing is added to a table between braces or to a plain value.
-/

namespace ChatRelay.Toml.Entries

/-- Whether a path may go through a table. `maker` is the standing of the tables that the path
    makes: dotted keys do not go into tables that have a header. -/
def mayPass (maker standing : Standing) : Bool :=
  match maker, standing with
  | _, .closed => false
  | .dotted, .header => false
  | _, _ => true

/-- Edit the table at the end of a path; the start is a table with the given standing and entries.
    An array of tables is entered at its last one. -/
def change? (maker : Standing) (edit : Standing → Entries → Option Entries) :
    (path : List String) → Standing → Entries → Option Entries
  | [], standing, entries => edit standing entries
  | name :: path, _, entries =>
    match entries.lookup name with
    | none => do
      let inner ← change? maker edit path maker []
      return entries.put name (.table maker inner)
    | some (.table standing inner) =>
      if mayPass maker standing then do
        let inner ← change? maker edit path standing inner
        return entries.put name (.table standing inner)
      else none
    | some (.tables items) => do
      let inner ← change? maker edit path .header (items.getLast?.getD [])
      return entries.put name (.tables (items.dropLast ++ [inner]))
    | some _ => none

/-- Give a value to a key. A dotted key adds only to tables that dotted keys made. -/
def assign? (path : List String) (name : String) (value : Value) (standing : Standing)
    (entries : Entries) : Option Entries :=
  change? .dotted (fun standing inner =>
    if path.isEmpty || standing = .dotted then inner.add? name value else none)
    path standing entries

/-- Take notice of the header of a table. -/
def openTable? (name : String) (entries : Entries) : Option Entries :=
  match entries.lookup name with
  | none => some (entries.put name (.table .header []))
  | some (.table .passed inner) => some (entries.put name (.table .header inner))
  | some _ => none

/-- Take notice of the header of one more table in an array of tables. -/
def openItem? (name : String) (entries : Entries) : Option Entries :=
  match entries.lookup name with
  | none => some (entries.put name (.tables [[]]))
  | some (.tables items) => some (entries.put name (.tables (items ++ [[]])))
  | some _ => none

end ChatRelay.Toml.Entries
