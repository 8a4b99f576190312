import ChatRelay.Json.Value
import ChatRelay.Text.Utf8

/-! # Reading JSON

A reader works on the bytes that are left and stops at the first thing that is wrong, so which of
two faults is reported depends only on which comes first. A fault is one of three: the text is
malformed, it ends too early, or it is well formed so far but has the wrong shape for what is read.

`Json.value` reads any value with at most a given depth of nesting, `Json.fields` an object for a
caller who wants each field as soon as it has been read, and `Json.document` demands that nothing
but blanks follows.
-/

namespace ChatRelay.Json

/-- Why a text could not be read. -/
inductive Fault where
  /-- No JSON text starts like this. -/
  | malformed
  /-- The text ends too early. -/
  | truncated
  /-- The value does not have the shape that is asked for. -/
  | misfit
  deriving Repr, DecidableEq

/-- A reader takes what it needs from the front and returns the rest. -/
abbrev Reader (α : Type) := Bytes → Except Fault (α × Bytes)

/-- Arrays and objects may be nested this deep. -/
def maxDepth : Nat := 127

/-- Space, tab, line feed and carriage return. -/
def isBlank (b : UInt8) : Bool := b == 0x20 || b == 0x09 || b == 0x0A || b == 0x0D

/-- The rest after the blanks in front. -/
def skipBlanks (data : Bytes) : Bytes := data.dropWhile isBlank

def isDigit (b : UInt8) : Bool := 0x30 ≤ b && b ≤ 0x39

/-- The value of a digit. -/
def digitValue (b : UInt8) : Nat := b.toNat - 0x30

/-- The rest of a word such as `true`, byte by byte. -/
def word : List UInt8 → Reader Unit
  | [], data => .ok ((), data)
  | _ :: _, [] => .error .truncated
  | w :: ws, b :: rest => if w = b then word ws rest else .error .malformed

/-! ## Strings -/

/-- Four hexadecimal digits. Fewer than four bytes left are too few, whatever they are. -/
def hexQuad : Reader Nat
  | a :: b :: c :: d :: rest =>
    let digit (x : UInt8) : Option Nat := Bytes.hexValue? (Char.ofNat x.toNat)
    match digit a, digit b, digit c, digit d with
    | some a, some b, some c, some d => .ok (((a * 16 + b) * 16 + c) * 16 + d, rest)
    | _, _, _, _ => .error .malformed
  | _ => .error .truncated

/-- The low half of a pair of surrogates, after the escape of the high half `high`. -/
def lowSurrogate (high : Nat) : Reader Nat
  | [] => .error .truncated
  | a :: rest =>
    if a ≠ 0x5C then .error .malformed
    else match rest with
      | [] => .error .truncated
      | b :: rest =>
        if b ≠ 0x75 then .error .malformed
        else do
          let (low, rest) ← hexQuad rest
          if low < 0xDC00 ∨ 0xDFFF < low then .error .malformed
          else .ok (0x10000 + (high - 0xD800) * 0x400 + (low - 0xDC00), rest)

/-- The code point of an escape `\uXXXX`, after its `u`. A high surrogate has to be followed by the
    escape of a low one, and a low one may not come first. -/
def unicodeEscape : Reader Nat := fun data => do
  let (n, rest) ← hexQuad data
  if 0xDC00 ≤ n ∧ n ≤ 0xDFFF then .error .malformed
  else if 0xD800 ≤ n ∧ n ≤ 0xDBFF then lowSurrogate n rest
  else .ok (n, rest)

/-- The bytes that an escape stands for, after its backslash. -/
def escape : Reader Bytes
  | [] => .error .truncated
  | b :: rest =>
    if b = 0x22 ∨ b = 0x5C ∨ b = 0x2F then .ok ([b], rest)
    else if b = 0x62 then .ok ([0x08], rest)
    else if b = 0x66 then .ok ([0x0C], rest)
    else if b = 0x6E then .ok ([0x0A], rest)
    else if b = 0x72 then .ok ([0x0D], rest)
    else if b = 0x74 then .ok ([0x09], rest)
    else if b = 0x75 then do
      let (n, rest) ← unicodeEscape rest
      .ok (Utf8.encodeCode n, rest)
    else .error .malformed

/-- The bytes of a string up to its closing quote, with `seen` the bytes before in reverse. Each
    round takes at least one byte, so the number of bytes left is fuel enough. -/
def stringBytes : (fuel : Nat) → (seen : Bytes) → Reader Bytes
  | 0, _, _ => .error .truncated
  | _ + 1, _, [] => .error .truncated
  | fuel + 1, seen, b :: rest =>
    if b = 0x22 then .ok (seen.reverse, rest)
    else if b = 0x5C then do
      let (bytes, rest) ← escape rest
      stringBytes fuel (bytes.reverse ++ seen) rest
    else if b < 0x20 then .error .malformed
    else stringBytes fuel (b :: seen) rest

/-- A string, after its opening quote. That its bytes are valid text is checked at the closing
    quote. -/
def string : Reader String := fun data => do
  let (bytes, rest) ← stringBytes data.length [] data
  match Utf8.toString? bytes with
  | some text => .ok (text, rest)
  | none => .error .malformed

/-! ## Numbers -/

/-- The largest integer that the digits of a number are gathered in. -/
def significandLimit : Nat := 18446744073709551616

/-- The bound of a decimal exponent. -/
def exponentLimit : Nat := 2147483648

/-- `significand · 10 ^ exponent`, computed as the reader of numbers does it: one multiplication or
    division by a power of ten up to `10 ^ 308`, after as many divisions by `10 ^ 308` as are
    needed. The steps round one after the other. Nothing if the number is too large. -/
def scaled? (significand : Binary64) (exponent : Int) : Option Binary64 := do
  if exponent < -308 then
    if significand.isZero then return significand
    let power ← Binary64.ofDecimal? false 1 308
    let next ← significand.div? power
    scaled? next (exponent + 308)
  else if exponent ≤ 308 then
    let power ← Binary64.ofDecimal? false 1 exponent.natAbs
    if 0 ≤ exponent then significand.mul? power else significand.div? power
  else if significand.isZero then return significand
  else none
termination_by exponent.natAbs
decreasing_by omega

/-- A number that is no integer, from its parts. -/
def realOfParts (negative : Bool) (significand : Nat) (exponent : Int) : Except Fault Number :=
  match (Binary64.ofNat? false significand).bind (scaled? · exponent) with
  | some x => .ok (.real (x.withSign negative))
  | none => .error .malformed

/-- The digits in front, as many as there are. -/
def digits (data : Bytes) : Bytes × Bytes := (data.takeWhile isDigit, data.dropWhile isDigit)

/-- Append digits to a significand while it stays below the limit; the digits that were taken, the
    new significand, and the digits left over. -/
def gather (significand : Nat) : Bytes → Nat × Nat × Bytes
  | [] => (0, significand, [])
  | d :: rest =>
    let next := significand * 10 + digitValue d
    if next < significandLimit then
      let (taken, result, left) := gather next rest
      (taken + 1, result, left)
    else (0, significand, d :: rest)

/-- The value of the digits of an exponent; nothing if it passes the limit. -/
def exponentValue? (ds : Bytes) : Option Nat :=
  ds.foldl (fun acc d => acc.bind fun n =>
    let next := n * 10 + digitValue d
    if next < exponentLimit then some next else none) (some 0)

/-- Keep an exponent within its bounds. -/
def clampExponent (e : Int) : Int :=
  max (-(exponentLimit : Int)) (min e (exponentLimit - 1))

/-- The exponent after its `e`, and with it the end of the number. -/
def exponentPart (negative : Bool) (significand : Nat) (start : Int) : Reader Number := fun data =>
  let (down, data) : Bool × Bytes := match data with
    | 0x2B :: rest => (false, rest)
    | 0x2D :: rest => (true, rest)
    | _ => (false, data)
  match data with
  | [] => .error .truncated
  | d :: _ =>
    if !isDigit d then .error .malformed
    else
      let (ds, rest) := digits data
      match exponentValue? ds with
      | some e =>
        let exponent := clampExponent (if down then start - e else start + e)
        (realOfParts negative significand exponent).map (·, rest)
      | none =>
        if significand ≠ 0 ∧ !down then .error .malformed
        else .ok (.real (.zero negative), rest)

/-- What may stand after the digits of a number: an exponent or the end. -/
def realEnd (negative : Bool) (significand : Nat) (exponent : Int) : Reader Number
  | 0x65 :: rest => exponentPart negative significand exponent rest
  | 0x45 :: rest => exponentPart negative significand exponent rest
  | data => (realOfParts negative significand exponent).map (·, data)

/-- The fraction after its point, and the end of the number. Once the significand is full, further
    digits are read and ignored. -/
def fraction (negative : Bool) (significand : Nat) (start : Int) : Reader Number := fun data =>
  match data with
  | [] => .error .truncated
  | d :: _ =>
    if !isDigit d then .error .malformed
    else
      let (ds, rest) := digits data
      let (taken, significand, _) := gather significand ds
      realEnd negative significand (start - taken) rest

/-- The end of a number whose integer part is read, less `dropped` digits at its end that did not
    fit the significand. -/
def numberEnd (negative : Bool) (significand dropped : Nat) : Reader Number
  | 0x2E :: rest => fraction negative significand dropped rest
  | 0x65 :: rest => exponentPart negative significand dropped rest
  | 0x45 :: rest => exponentPart negative significand dropped rest
  | data =>
    if dropped ≠ 0 then (realOfParts negative significand dropped).map (·, data)
    else if !negative then .ok (.integer significand, data)
    else if significand = 0 ∨ 9223372036854775808 < significand then
      (realOfParts true significand 0).map (·, data)
    else .ok (.integer (-significand), data)

/-- A number, after its minus sign if it has one. A zero in front may not be followed by a digit.
    Integers of 64 bits stay integers, except that there is no negative zero among them. -/
def number (negative : Bool) : Reader Number
  | [] => .error .truncated
  | data@(d :: rest) =>
    if !isDigit d then .error .malformed
    else if d = 0x30 then
      match rest with
      | e :: _ => if isDigit e then .error .malformed else numberEnd negative 0 0 rest
      | [] => numberEnd negative 0 0 rest
    else
      let (ds, rest) := digits data
      let (_, significand, dropped) := gather 0 ds
      numberEnd negative significand dropped.length rest

/-! ## Arrays, objects, values -/

/-- What follows an item of an array or object: the closing bracket, or a comma and the next. -/
inductive Next where
  | done (rest : Bytes)
  | more (rest : Bytes)

/-- Look for the next item in front of a closing bracket. The first item has no comma before it,
    and after a comma there must be an item. -/
def next (close : UInt8) (first : Bool) (data : Bytes) : Except Fault Next :=
  match skipBlanks data with
  | [] => .error .truncated
  | b :: rest =>
    if b = close then .ok (.done rest)
    else if first then .ok (.more (b :: rest))
    else if b ≠ 0x2C then .error .malformed
    else match skipBlanks rest with
      | [] => .error .truncated
      | c :: rest => if c = close then .error .malformed else .ok (.more (c :: rest))

/-- The items of an array, after its opening bracket. Each takes at least one byte, so the number
    of bytes left is fuel enough. -/
def items (item : Reader α) : (fuel : Nat) → (first : Bool) → Reader (List α)
  | 0, _, _ => .error .truncated
  | fuel + 1, first, data => do
    match ← next 0x5D first data with
    | .done rest => .ok ([], rest)
    | .more rest =>
      let (x, rest) ← item rest
      let (xs, rest) ← items item fuel false rest
      .ok (x :: xs, rest)

/-- The colon between a name and its value. -/
def colon : Reader Unit := fun data =>
  match skipBlanks data with
  | [] => .error .truncated
  | b :: rest => if b = 0x3A then .ok ((), rest) else .error .malformed

/-- The fields of an object, after its opening bracket, each handed with what has been gathered so
    far to `field`, which reads the colon and the value. -/
def fields (field : (name : String) → α → Reader α) :
    (fuel : Nat) → (first : Bool) → α → Reader α
  | 0, _, _, _ => .error .truncated
  | fuel + 1, first, acc, data => do
    match ← next 0x7D first data with
    | .done rest => .ok (acc, rest)
    | .more rest =>
      match rest with
      | 0x22 :: rest =>
        let (name, rest) ← string rest
        let (acc, rest) ← field name acc rest
        fields field fuel false acc rest
      | _ => .error .malformed

/-- Any value, with at most `depth` levels of nesting. -/
def value (depth : Nat) : Reader Value := fun data =>
  match skipBlanks data with
  | [] => .error .truncated
  | b :: rest =>
    if b = 0x6E then do
      let ((), rest) ← word [0x75, 0x6C, 0x6C] rest
      .ok (.null, rest)
    else if b = 0x74 then do
      let ((), rest) ← word [0x72, 0x75, 0x65] rest
      .ok (.bool true, rest)
    else if b = 0x66 then do
      let ((), rest) ← word [0x61, 0x6C, 0x73, 0x65] rest
      .ok (.bool false, rest)
    else if b = 0x2D then do
      let (n, rest) ← number true rest
      .ok (.number n, rest)
    else if isDigit b then do
      let (n, rest) ← number false (b :: rest)
      .ok (.number n, rest)
    else if b = 0x22 then do
      let (text, rest) ← string rest
      .ok (.string text, rest)
    else if b = 0x5B then
      match depth with
      | 0 => .error .malformed
      | depth + 1 => do
        let (xs, rest) ← items (value depth) (rest.length + 1) true rest
        .ok (.array xs, rest)
    else if b = 0x7B then
      match depth with
      | 0 => .error .malformed
      | depth + 1 => do
        let (fs, rest) ← fields (fun name acc data => do
          let ((), data) ← colon data
          let (v, data) ← value depth data
          .ok (Fields.insert name v acc, data)) (rest.length + 1) true [] rest
        .ok (.object fs, rest)
    else .error .malformed

/-- A text that holds what `read` reads and nothing else but blanks. -/
def document (read : Reader α) (data : Bytes) : Except Fault α := do
  let (x, rest) ← read data
  match skipBlanks rest with
  | [] => .ok x
  | _ => .error .malformed

/-- Read past a value that is not of the kind that is wanted. A word, a number or a string is read
    whole first, and its own faults come first; an array or object is refused at its bracket. -/
def refuse (data : Bytes) : Except Fault α :=
  match skipBlanks data with
  | [] => .error .truncated
  | b :: rest =>
    if b = 0x5B ∨ b = 0x7B then .error .misfit
    else match value 0 (b :: rest) with
      | .ok _ => .error .misfit
      | .error fault => .error fault

end ChatRelay.Json
