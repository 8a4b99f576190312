import ChatRelay.Toml.Reader

/-! # TOML documents

A document is a list of lines that give a value to a key or open a table. The lines are read first
and then carried out one after the other on the table at the root.
-/

namespace ChatRelay.Toml

/-- What one line says. A path leads to a table, and the name is a name in it. -/
inductive Statement where
  | assign (path : List String) (name : String) (value : Value)
  | openTable (path : List String) (name : String)
  /-- Open one more table of an array of tables. -/
  | openItem (path : List String) (name : String)
  deriving Repr

namespace Statement

/-- A statement at the front of the text, and the rest after its line. -/
def read? : Reader Statement
  | '[' :: '[' :: text => do
    match ← key? text with
    | ((path, name), ']' :: ']' :: rest) => return (.openItem path name, ← lineEnd? rest)
    | _ => none
  | '[' :: text => do
    match ← key? text with
    | ((path, name), ']' :: rest) => return (.openTable path name, ← lineEnd? rest)
    | _ => none
  | text => do
    match ← key? text with
    | ((path, name), '=' :: rest) => do
      let (value, rest) ← value? (skipSpaces rest)
      return (.assign path name value, ← lineEnd? rest)
    | _ => none

/-- All statements of a text. Every line takes at least one character. -/
def readAll? : (fuel : Nat) → List Char → Option (List Statement)
  | 0, _ => none
  | fuel + 1, text =>
    match skipSpaces text with
    | [] => some []
    | text => do
      match lineEnd? text with
      | some rest => readAll? fuel rest
      | none => do
        let (statement, rest) ← read? text
        return statement :: (← readAll? fuel rest)

end Statement

/-- A document that is being built: the root, and the path of the table that is open. -/
structure Draft where
  root : Entries := []
  here : List String := []
  deriving Repr

/-- Carry out one statement. -/
def Draft.carryOut? (draft : Draft) : Statement → Option Draft
  | .assign path name value => do
    let root ← Entries.change? .passed (Entries.assign? path name value) draft.here .header
      draft.root
    return { draft with root }
  | .openTable path name => do
    let root ← Entries.change? .passed (fun _ => Entries.openTable? name) path .header draft.root
    return { root, here := path ++ [name] }
  | .openItem path name => do
    let root ← Entries.change? .passed (fun _ => Entries.openItem? name) path .header draft.root
    return { root, here := path ++ [name] }

/-- The root table of a document. A mark of the byte order may stand in front. -/
def document? (text : List Char) : Option Entries := do
  let text := match text with
    | '\ufeff' :: rest => rest
    | _ => text
  let statements ← Statement.readAll? (text.length + 1) text
  let draft ← statements.foldlM Draft.carryOut? {}
  return draft.root

end ChatRelay.Toml
