import ChatRelay.Text.Blank
import ChatRelay.Text.Digits
import ChatRelay.Time.Calendar

/-! # Timestamps

An instant in universal time to the nanosecond. A second may be followed by a leap second, whose
nanoseconds are counted on from one billion. Timestamps are read in a relaxed form (blanks between
the fields, one-digit fields, several separators and forms of the offset) and written in one form
only: universal time, a `Z`, and as many of 0, 3, 6 or 9 places as lose nothing.
-/

namespace ChatRelay

/-- An instant: day from 1970-01-01, second of that day, nanoseconds of that second. -/
structure Timestamp where
  day : Int
  second : Nat
  nanos : Nat
  deriving Repr, DecidableEq

namespace Timestamp

/-- First year of the calendar that timestamps can be in. -/
def firstYear : Int := -262143

/-- Last year of the calendar that timestamps can be in. -/
def lastYear : Int := 262142

/-- Whether a day lies in the years that timestamps can be in. -/
def inRange (day : Int) : Bool :=
  (Date.toDays ⟨firstYear, 1, 1⟩ ≤ day) && (day ≤ Date.toDays ⟨lastYear, 12, 31⟩)

/-- The instant `seconds` and `nanos` after the start of 1970. -/
def ofUnix (seconds : Int) (nanos : Nat) : Timestamp :=
  ⟨seconds / 86400, (seconds % 86400).toNat, nanos⟩

/-! ## Reading -/

/-- Skip one given character, after white space. -/
def mark? (c : Char) (text : List Char) : Option (List Char) :=
  match Text.skipBlanks text with
  | d :: rest => if c = d then some rest else none
  | [] => none

/-- An unsigned field of one or two digits, after white space. -/
def field? (text : List Char) : Option (Nat × List Char) :=
  Text.number? 2 (Text.skipBlanks text)

/-- A year, after white space: up to four digits, or a sign and any number of digits. -/
def year? (text : List Char) : Option (Int × List Char) :=
  match Text.skipBlanks text with
  | '-' :: rest => do
    let (n, rest) ← Text.number? rest.length rest
    return (-(n : Int), rest)
  | '+' :: rest => do
    let (n, rest) ← Text.number? rest.length rest
    return ((n : Int), rest)
  | text => do
    let (n, rest) ← Text.number? 4 text
    return ((n : Int), rest)

/-- A fraction of a second in nanoseconds, if a point follows. Places beyond the ninth are read and
    dropped. -/
def fraction? (text : List Char) : Option (Nat × List Char) :=
  match text with
  | '.' :: rest =>
    match Text.takeDigits 9 rest with
    | ([], _) => none
    | (ds, rest) =>
      some (Text.digitsValue 0 ds * Nat.pow 10 (9 - ds.length), rest.dropWhile Char.isDigit)
  | _ => some (0, text)

/-- Exactly two digits. -/
def twoDigits? : List Char → Option (Nat × List Char)
  | a :: b :: rest =>
    if a.isDigit && b.isDigit then some (Text.digitsValue 0 [a, b], rest) else none
  | _ => none

/-- Hours and minutes of an offset in seconds. Between them there may be colons and white space. -/
def offsetSize? (text : List Char) : Option (Int × List Char) := do
  let (hours, rest) ← twoDigits? text
  let (minutes, rest) ← twoDigits? (rest.dropWhile fun c => c == ':' || Text.isBlank c)
  if 60 ≤ minutes then none
  return (((hours * 3600 + minutes * 60 : Nat) : Int), rest)

/-- The offset from universal time in seconds: `UTC` or `Z` in either case, or a sign, hours and
    minutes. -/
def offset? (text : List Char) : Option (Int × List Char) :=
  match text with
  | [] => none
  | c :: rest =>
    if text.take 3 |>.map Char.toUpper |> (· == ['U', 'T', 'C']) then some (0, text.drop 3)
    else if c = 'Z' ∨ c = 'z' then some (0, rest)
    else if c = '+' then offsetSize? rest
    else if c = '-' ∨ c = '\u2212' then (offsetSize? rest).map fun (n, rest) => (-n, rest)
    else none

/-- A date, its three fields with hyphens between them. -/
def date? (text : List Char) : Option (Date × List Char) := do
  let (year, rest) ← year? text
  let rest ← mark? '-' rest
  let (month, rest) ← field? rest
  let rest ← mark? '-' rest
  let (day, rest) ← field? rest
  let date : Date := ⟨year, month, day⟩
  if year < firstYear || lastYear < year || !date.isValid then none
  return (date, rest)

/-- A time of day as second and nanoseconds. A second numbered 60 is the leap second after 59. -/
def clock? (text : List Char) : Option ((Nat × Nat) × List Char) := do
  let (hour, rest) ← field? text
  let rest ← mark? ':' rest
  let (minute, rest) ← field? rest
  let rest ← mark? ':' rest
  let (second, rest) ← field? rest
  let (nanos, rest) ← fraction? rest
  if 23 < hour || 59 < minute || 60 < second then none
  let minutes := hour * 60 + minute
  let time := if second = 60 then (minutes * 60 + 59, nanos + 1000000000)
    else (minutes * 60 + second, nanos)
  return (time, rest)

/-- Read a timestamp: a date, one separator, a time and an offset, with nothing but white space
    after it. The instant must lie in range in local and in universal time. -/
def parse? (text : List Char) : Option Timestamp := do
  let (date, rest) ← date? text
  match rest with
  | [] => none
  | c :: rest =>
    if c ≠ 'T' ∧ c ≠ 't' ∧ c ≠ ' ' then none
    let ((second, nanos), rest) ← clock? rest
    let (offset, rest) ← offset? (Text.skipBlanks rest)
    if !(Text.skipBlanks rest).isEmpty then none
    if offset ≤ -86400 ∨ 86400 ≤ offset then none
    let universal := date.toDays * 86400 + second - offset
    if !inRange (universal / 86400) then none
    return ofUnix universal nanos

/-! ## Writing -/

/-- A year: four digits from 0 to 9999, otherwise a sign and at least four digits. -/
def yearText (year : Int) : List Char :=
  if 0 ≤ year ∧ year ≤ 9999 then Text.padded 4 year.toNat
  else (if year < 0 then '-' else '+') :: Text.padded 4 year.natAbs

/-- The fraction of a second in the least of 0, 3, 6 and 9 places that holds it. -/
def fractionText (nanos : Nat) : List Char :=
  if nanos = 0 then []
  else if nanos % 1000000 = 0 then '.' :: Text.padded 3 (nanos / 1000000)
  else if nanos % 1000 = 0 then '.' :: Text.padded 6 (nanos / 1000)
  else '.' :: Text.padded 9 nanos

/-- The one written form of a timestamp. -/
def format (t : Timestamp) : List Char :=
  let date := Date.ofDays t.day
  let leap := 1000000000 ≤ t.nanos
  let second := t.second % 60 + (if leap then 1 else 0)
  let nanos := if leap then t.nanos - 1000000000 else t.nanos
  yearText date.year ++ '-' :: Text.padded 2 date.month ++ '-' :: Text.padded 2 date.day ++
    'T' :: Text.padded 2 (t.second / 3600) ++ ':' :: Text.padded 2 (t.second / 60 % 60) ++
    ':' :: Text.padded 2 second ++ fractionText nanos ++ ['Z']

/-- The written form as text. -/
def text (t : Timestamp) : String := String.ofList t.format

end Timestamp
end ChatRelay
