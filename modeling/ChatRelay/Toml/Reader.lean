import ChatRelay.Text.Digits
import ChatRelay.Text.Utf8
import ChatRelay.Time.Calendar
import ChatRelay.Toml.Table

/-! # Reading TOML values

A reader works on the characters that are left and gives what it read together with the rest, or
nothing if the text does not fit. `key?` reads a key with dots, `value?` any value.
-/

namespace ChatRelay.Toml

/-- A reader takes what it needs from the front and returns the rest. -/
abbrev Reader (α : Type) := List Char → Option (α × List Char)

/-- Values may be nested this deep in arrays and braces, and keys have at most as many parts. -/
def maxDepth : Nat := 79

/-! ## Between the tokens -/

def isSpace (c : Char) : Bool := c == ' ' || c == '\t'

def skipSpaces (text : List Char) : List Char := text.dropWhile isSpace

/-- The characters of comments and literal strings: the tab, and everything but control
    characters of ASCII. -/
def isPlain (c : Char) : Bool := c == '\t' || (0x20 ≤ c.toNat && c.toNat ≠ 0x7F)

/-- The rest after a line feed, with or without a carriage return before it. -/
def newline? : List Char → Option (List Char)
  | '\n' :: rest => some rest
  | '\r' :: '\n' :: rest => some rest
  | _ => none

def skipComment : List Char → List Char
  | '#' :: rest => rest.dropWhile isPlain
  | text => text

/-- The rest after the end of a line, before which there may be spaces and a comment. -/
def lineEnd? (text : List Char) : Option (List Char) :=
  match skipComment (skipSpaces text) with
  | [] => some []
  | text => newline? text

/-- The rest after spaces, line ends and comments; `inComment` says that a comment has begun. -/
def skipGaps (inComment : Bool) : List Char → List Char
  | '\n' :: rest => skipGaps false rest
  | '\r' :: '\n' :: rest => skipGaps false rest
  | c :: rest =>
    if inComment then if isPlain c then skipGaps true rest else c :: rest
    else if isSpace c then skipGaps false rest
    else if c = '#' then skipGaps true rest
    else c :: rest
  | [] => []

/-- The rest after spaces and line ends. -/
def skipLines : List Char → List Char
  | '\n' :: rest => skipLines rest
  | '\r' :: '\n' :: rest => skipLines rest
  | c :: rest => if isSpace c then skipLines rest else c :: rest
  | [] => []

/-! ## Strings -/

/-- The number that hexadecimal digits stand for. -/
def hexNumber? (digits : List Char) : Option Nat :=
  digits.foldlM (fun n d => (Bytes.hexValue? d).map (n * 16 + ·)) 0

/-- The character whose code point has exactly `width` hexadecimal digits. -/
def codePoint? (width : Nat) : Reader Char := fun text => do
  let digits := text.take width
  if digits.length < width then none
  let n ← hexNumber? digits
  let c ← Utf8.charOfCode? n
  return (c, text.drop width)

/-- The character that an escape stands for, after its backslash. -/
def escape? : Reader Char
  | 'b' :: rest => some ('\x08', rest)
  | 't' :: rest => some ('\t', rest)
  | 'n' :: rest => some ('\n', rest)
  | 'f' :: rest => some ('\x0c', rest)
  | 'r' :: rest => some ('\r', rest)
  | '"' :: rest => some ('"', rest)
  | '\\' :: rest => some ('\\', rest)
  | 'u' :: rest => codePoint? 4 rest
  | 'U' :: rest => codePoint? 8 rest
  | _ => none

/-- The characters up to the closing quote of a string on one line, with `seen` the ones before in
    reverse. Only strings in double quotes have escapes. -/
def lineString? (quote : Char) : (fuel : Nat) → (seen : List Char) → Reader String
  | 0, _, _ => none
  | _ + 1, _, [] => none
  | fuel + 1, seen, c :: rest =>
    if c = quote then some (String.ofList seen.reverse, rest)
    else if c = '\\' ∧ quote = '"' then do
      let (e, rest) ← escape? rest
      lineString? quote fuel (e :: seen) rest
    else if isPlain c then lineString? quote fuel (c :: seen) rest
    else none

/-- The characters up to the three closing quotes of a string on several lines. One or two more
    quotes before the closing ones belong to the string. A backslash at the end of a line takes
    away all space up to the next character. -/
def longString? (quote : Char) : (fuel : Nat) → (seen : List Char) → Reader String
  | 0, _, _ => none
  | _ + 1, _, [] => none
  | fuel + 1, seen, c :: rest =>
    if c = quote then
      let run := ((c :: rest).takeWhile (· == quote)).length
      if run < 3 then
        longString? quote fuel (List.replicate run quote ++ seen) (rest.drop (run - 1))
      else
        let extra := min (run - 3) 2
        some (String.ofList (seen.reverse ++ List.replicate extra quote), rest.drop (extra + 2))
    else if c = '\\' ∧ quote = '"' then
      match newline? (skipSpaces rest) with
      | some rest => longString? quote fuel seen (skipLines rest)
      | none => do
        let (e, rest) ← escape? rest
        longString? quote fuel (e :: seen) rest
    else
      match newline? (c :: rest) with
      | some rest => longString? quote fuel ('\n' :: seen) rest
      | none => if isPlain c then longString? quote fuel (c :: seen) rest else none

/-- A string in quotes of one kind, after its first quote. A line end right after three opening
    quotes does not count. -/
def string? (quote : Char) : Reader String := fun text =>
  if text.take 2 = [quote, quote] then
    let body := text.drop 2
    longString? quote (text.length + 1) [] ((newline? body).getD body)
  else lineString? quote (text.length + 1) [] text

/-! ## Keys -/

def isBare (c : Char) : Bool := c.isAlphanum || c == '-' || c == '_'

/-- One part of a key: a string on one line, or letters, digits, hyphens and underscores. -/
def keyPart? : Reader String
  | '"' :: rest => lineString? '"' (rest.length + 1) [] rest
  | '\'' :: rest => lineString? '\'' (rest.length + 1) [] rest
  | text =>
    match text.takeWhile isBare with
    | [] => none
    | name => some (String.ofList name, text.dropWhile isBare)

/-- A key of at most `parts` parts: the path to a table and the name in it. -/
def keyOf? : (parts : Nat) → Reader (List String × String)
  | 0, _ => none
  | parts + 1, text => do
    let (name, rest) ← keyPart? (skipSpaces text)
    match skipSpaces rest with
    | '.' :: rest => do
      let ((path, last), rest) ← keyOf? parts rest
      return ((name :: path, last), rest)
    | rest => return (([], name), rest)

/-- A key, with spaces around its parts. -/
def key? : Reader (List String × String) := keyOf? maxDepth

/-! ## Dates and times -/

/-- Exactly `width` digits. -/
def fixed? (width : Nat) : Reader Nat := fun text =>
  let digits := text.take width
  if digits.length = width ∧ digits.all Char.isDigit then
    some (Text.digitsValue 0 digits, text.drop width)
  else none

/-- Exactly `width` digits and a mark after them. -/
def fixedThen? (width : Nat) (mark : Char) : Reader Nat := fun text => do
  match ← fixed? width text with
  | (n, c :: rest) => if c = mark then some (n, rest) else none
  | _ => none

/-- The rest after a date. -/
def dateEnd? (text : List Char) : Option (List Char) := do
  let (year, rest) ← fixedThen? 4 '-' text
  let (month, rest) ← fixedThen? 2 '-' rest
  let (day, rest) ← fixed? 2 rest
  if (Date.mk year month day).isValid then some rest else none

/-- The rest after a time of day with its seconds and any number of decimal places. -/
def clockEnd? (text : List Char) : Option (List Char) := do
  let (hour, rest) ← fixedThen? 2 ':' text
  let (minute, rest) ← fixedThen? 2 ':' rest
  let (second, rest) ← fixed? 2 rest
  if 23 < hour ∨ 59 < minute ∨ 60 < second then none
  match rest with
  | '.' :: rest => (Text.number? rest.length rest).map Prod.snd
  | rest => some rest

/-- The rest after an offset from universal time. -/
def offsetEnd? : List Char → Option (List Char)
  | c :: rest =>
    if c = 'Z' ∨ c = 'z' then some rest
    else if c = '+' ∨ c = '-' then do
      let (hour, rest) ← fixedThen? 2 ':' rest
      let (minute, rest) ← fixed? 2 rest
      if 23 < hour ∨ 59 < minute then none else some rest
    else none
  | [] => none

/-- The rest after a time of day that follows a date. -/
def clockAfterDate? : List Char → Option (List Char)
  | c :: rest =>
    if c = 'T' ∨ c = 't' ∨ c = ' ' then do
      let rest ← clockEnd? rest
      return (offsetEnd? rest).getD rest
    else none
  | [] => none

/-- A date, a date and a time, or a time. -/
def moment? : Reader Value := fun text => do
  let rest ← match dateEnd? text with
    | some rest => some ((clockAfterDate? rest).getD rest)
    | none => clockEnd? text
  return (.moment (String.ofList (text.take (text.length - rest.length))), rest)

/-! ## Numbers -/

/-- Digits of some base after a first one. A single underscore may stand between two digits. -/
def moreDigits? (isDigit : Char → Bool) : Reader (List Char)
  | '_' :: d :: rest =>
    if isDigit d then do
      let (ds, rest) ← moreDigits? isDigit rest
      return (d :: ds, rest)
    else none
  | ['_'] => none
  | d :: rest =>
    if isDigit d then do
      let (ds, rest) ← moreDigits? isDigit rest
      return (d :: ds, rest)
    else some ([], d :: rest)
  | [] => some ([], [])

/-- At least one digit of some base. -/
def digits? (isDigit : Char → Bool) : Reader (List Char)
  | d :: rest =>
    if isDigit d then do
      let (ds, rest) ← moreDigits? isDigit rest
      return (d :: ds, rest)
    else none
  | [] => none

/-- Whether a minus sign stands in front, and the rest after a sign of either kind. -/
def sign : List Char → Bool × List Char
  | '-' :: rest => (true, rest)
  | '+' :: rest => (false, rest)
  | text => (false, text)

/-- The digits of a decimal integer without needless zeros in front. -/
def decimal? : Reader (List Char)
  | '0' :: rest => some (['0'], rest)
  | text => digits? Char.isDigit text

/-- The integer, if it fits into a signed word of 64 bits. -/
def integerOf? (negative : Bool) (n : Nat) : Option Value :=
  let value : Int := if negative then -n else n
  if -9223372036854775808 ≤ value ∧ value ≤ 9223372036854775807 then some (.integer value) else none

/-- An integer in another base than ten, after its mark. -/
def based? (base : Nat) (isDigit : Char → Bool) : Reader Value := fun text => do
  let (ds, rest) ← digits? isDigit text
  let n ← ds.foldlM (fun n d => (Bytes.hexValue? d).map (n * base + ·)) 0
  let value ← integerOf? false n
  return (value, rest)

def integer? : Reader Value
  | '0' :: 'x' :: rest => based? 16 (fun c => (Bytes.hexValue? c).isSome) rest
  | '0' :: 'o' :: rest => based? 8 (fun c => '0' ≤ c && c ≤ '7') rest
  | '0' :: 'b' :: rest => based? 2 (fun c => c == '0' || c == '1') rest
  | text => do
    let (negative, rest) := sign text
    let (ds, rest) ← decimal? rest
    let value ← integerOf? negative (Text.digitsValue 0 ds)
    return (value, rest)

/-- Decimal exponents beyond which every number is infinite or zero. -/
def farExponent : Int := 400

/-- The number nearest to `± digits · 10 ^ scale`. Only a negative number may be too large. -/
def realOf? (negative : Bool) (digits : Nat) (scale : Int) : Option Value :=
  let magnitude := (Nat.toDigits 10 digits).length + scale
  let nearest :=
    if digits = 0 ∨ magnitude < -farExponent then some (Binary64.zero negative)
    else if farExponent < magnitude then none
    else Binary64.ofDecimal? negative digits scale
  match nearest with
  | some x => some (.real (some x))
  | none => if negative then some (.real none) else none

/-- Decimal places after a point, if there is one. -/
def places? : Reader (List Char)
  | '.' :: rest => digits? Char.isDigit rest
  | text => some ([], text)

/-- An exponent, if there is one. -/
def exponent? (text : List Char) : Option (Option Int × List Char) :=
  match text with
  | c :: rest =>
    if c = 'e' ∨ c = 'E' then do
      let (negative, rest) := sign rest
      let (ds, rest) ← digits? Char.isDigit rest
      let n : Int := Text.digitsValue 0 ds
      return (some (if negative then -n else n), rest)
    else some (none, text)
  | [] => some (none, text)

/-- A number with decimal places, an exponent or both. -/
def real? : Reader Value := fun text => do
  let (negative, rest) := sign text
  let (whole, rest) ← decimal? rest
  let (fraction, rest) ← places? rest
  let (exponent, rest) ← exponent? rest
  if fraction.isEmpty ∧ exponent.isNone then none
  let value ← realOf? negative (Text.digitsValue 0 (whole ++ fraction))
    (exponent.getD 0 - fraction.length)
  return (value, rest)

/-- An infinity or what is not a number. -/
def special? : Reader Value := fun text =>
  match (sign text).2 with
  | 'i' :: 'n' :: 'f' :: rest => some (.real none, rest)
  | 'n' :: 'a' :: 'n' :: rest => some (.real none, rest)
  | _ => none

/-! ## Values -/

/-- A value that contains no others. -/
def scalar? : Reader Value
  | '"' :: rest => (string? '"' rest).map fun (s, rest) => (.string s, rest)
  | '\'' :: rest => (string? '\'' rest).map fun (s, rest) => (.string s, rest)
  | 't' :: 'r' :: 'u' :: 'e' :: rest => some (.bool true, rest)
  | 'f' :: 'a' :: 'l' :: 's' :: 'e' :: rest => some (.bool false, rest)
  | text => moment? text <|> real? text <|> special? text <|> integer? text

/-- The items of an array, after its opening bracket. A comma may follow the last one. -/
def items? (read : Reader Value) : (fuel : Nat) → Reader (List Value)
  | 0, _ => none
  | fuel + 1, text =>
    match skipGaps false text with
    | ']' :: rest => some ([], rest)
    | text => do
      let (item, rest) ← read text
      match skipGaps false rest with
      | ',' :: rest => do
        let (more, rest) ← items? read fuel rest
        return (item :: more, rest)
      | ']' :: rest => some ([item], rest)
      | _ => none

/-- The pairs of a table between braces, all on one line; `entries` are the ones before. -/
def pairs? (read : Reader Value) : (fuel : Nat) → (entries : Entries) → Reader Entries
  | 0, _, _ => none
  | fuel + 1, entries, text => do
    match ← key? text with
    | ((path, name), '=' :: rest) => do
      let (value, rest) ← read (skipSpaces rest)
      let entries ← Entries.assign? path name value .closed entries
      match skipSpaces rest with
      | ',' :: rest => pairs? read fuel entries rest
      | '\x7d' :: rest => some (entries, rest)
      | _ => none
    | _ => none

/-- A value nested at most `depth` deep. -/
def valueWithin? : (depth : Nat) → Reader Value
  | 0, text => scalar? text
  | depth + 1, text =>
    match text with
    | '[' :: rest =>
      (items? (valueWithin? depth) (rest.length + 1) rest).map fun (xs, rest) => (.array xs, rest)
    | '\x7b' :: rest =>
      match skipSpaces rest with
      | '\x7d' :: rest => some (.table .closed [], rest)
      | rest => (pairs? (valueWithin? depth) (rest.length + 1) [] rest).map fun (es, rest) =>
          (.table .closed es, rest)
    | text => scalar? text

/-- A value. -/
def value? : Reader Value := valueWithin? maxDepth

end ChatRelay.Toml
