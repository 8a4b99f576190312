import ChatRelay.Text.Utf8

/-! # Request targets

A request names what it is about by a path and a query. The target may also be given with a scheme
and an authority before the path, or be an authority alone, which has no path. A fragment is
dropped.
-/

namespace ChatRelay.Http

/-- What a request is about. -/
structure Target where
  path : Bytes
  query : Option Bytes := none
  deriving Repr, DecidableEq

namespace Target

/-- Longest target in bytes. -/
def sizeLimit : Nat := 65534

/-- Bytes that may stand in a path, percent signs among them. Quotes and braces may, too. -/
def inPath (b : UInt8) : Bool :=
  let n := b.toNat
  n == 0x21 || n == 0x22 || (0x24 ≤ n && n ≤ 0x3B) || n == 0x3D || (0x40 ≤ n && n ≤ 0x5F) ||
    (0x61 ≤ n && n != 0x7F)

/-- Bytes that may stand in a query. -/
def inQuery (b : UInt8) : Bool :=
  let n := b.toNat
  n == 0x21 || (0x24 ≤ n && n ≤ 0x3B) || n == 0x3D || (0x3F ≤ n && n != 0x7F)

/-- Everything before the fragment. -/
def withoutFragment (data : Bytes) : Bytes := data.takeWhile (· != 0x23)

/-- A path and a query. The path of a full target is `/` if it is empty. -/
def ofPath? (data : Bytes) : Option Target :=
  let data := withoutFragment data
  let path := data.takeWhile (· != 0x3F)
  let rest := data.dropWhile (· != 0x3F)
  let query := if rest.isEmpty then none else some (rest.drop 1)
  if path.all inPath && (query.getD []).all inQuery && Utf8.isValid data then
    some { path := if path.isEmpty then [0x2F] else path, query }
  else none

/-! ## Authorities -/

/-- What has been seen of an authority. -/
structure AuthorityScan where
  colons : Nat := 0
  opened : Bool := false
  closed : Bool := false
  /-- A percent sign that is not known to stand before an at sign or in brackets. -/
  percent : Bool := false
  /-- The last byte was an at sign. -/
  atEnd : Bool := false

/-- Marks that may stand in an authority and mean nothing special here. -/
def authorityMarks : List UInt8 :=
  [0x21, 0x24, 0x26, 0x27, 0x28, 0x29, 0x2A, 0x2B, 0x2C, 0x2D, 0x2E, 0x3B, 0x3D, 0x5F, 0x7E]

/-- Go over one byte of an authority. -/
def AuthorityScan.next? (scan : AuthorityScan) (b : UInt8) : Option AuthorityScan :=
  let scan := { scan with atEnd := false }
  if b = 0x3A then if 8 ≤ scan.colons then none else some { scan with colons := scan.colons + 1 }
  else if b = 0x5B then
    if scan.percent || scan.opened then none else some { scan with opened := true }
  else if b = 0x5D then
    if !scan.opened || scan.closed then none
    else some { scan with closed := true, colons := 0, percent := false }
  else if b = 0x40 then some { scan with atEnd := true, colons := 0, percent := false }
  else if b = 0x25 then some { scan with percent := true }
  else if b.toNat < 0x80 && (Char.ofNat b.toNat).isAlphanum || authorityMarks.contains b then
    some scan
  else none

/-- Whether bytes are an authority: a host, perhaps with a port after it and a user before it.
    Percent signs may stand only in the user and in brackets. -/
def isAuthority (data : Bytes) : Bool :=
  match data.foldlM AuthorityScan.next? {} with
  | some scan => scan.opened == scan.closed && scan.colons ≤ 1 && !scan.atEnd && !scan.percent
  | none => false

/-- Whether a byte ends an authority. -/
def endsAuthority (b : UInt8) : Bool := b == 0x2F || b == 0x3F || b == 0x23

/-- Whether a byte may stand in a scheme. -/
def inScheme (b : UInt8) : Bool :=
  b.toNat < 0x80 && (Char.ofNat b.toNat).isAlphanum || [0x2B, 0x2D, 0x2E, 0x7E].contains b

/-- Longest scheme in bytes. -/
def schemeLimit : Nat := 64

/-- What follows a scheme and its `://`, if there is one; the length of the scheme comes first. -/
def afterScheme? (data : Bytes) : Option (Nat × Bytes) :=
  match data.dropWhile inScheme with
  | 0x3A :: 0x2F :: 0x2F :: rest => some ((data.takeWhile inScheme).length, rest)
  | _ => none

/-- Read a target. -/
def ofBytes? (data : Bytes) : Option Target :=
  if data.isEmpty || sizeLimit < data.length then none
  else if data = [0x2A] then some { path := data }
  else if data.head? = some 0x2F then ofPath? data
  else
    match afterScheme? data with
    | some (size, rest) =>
      let authority := rest.takeWhile (!endsAuthority ·)
      if schemeLimit < size || authority.isEmpty || !isAuthority authority then none
      else ofPath? (rest.dropWhile (!endsAuthority ·))
    | none => if isAuthority data then some { path := [] } else none

/-- What a client with a full target asks the server for: all that follows the authority, or `/` if
    nothing does. -/
def sent? (data : Bytes) : Option Bytes :=
  match ofBytes? data, afterScheme? data with
  | some _, some (_, rest) =>
    let path := withoutFragment (rest.dropWhile (!endsAuthority ·))
    some (if path.isEmpty then [0x2F] else path)
  | _, _ => none

end Target
end ChatRelay.Http
