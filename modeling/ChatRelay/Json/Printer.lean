import ChatRelay.Json.Value
import ChatRelay.Number.Shortest
import ChatRelay.Text.Utf8

/-! # Writing JSON

Values are written without blanks. In strings only the quote, the backslash and the control
characters below U+0020 are escaped, and numbers that are no integers are written as the shortest
decimal in compact form.
-/

namespace ChatRelay.Json

/-- The bytes of one character inside a string. -/
def printChar (c : Char) : Bytes :=
  if c = '"' then [0x5C, 0x22]
  else if c = '\\' then [0x5C, 0x5C]
  else if c.toNat = 0x08 then [0x5C, 0x62]
  else if c.toNat = 0x09 then [0x5C, 0x74]
  else if c.toNat = 0x0A then [0x5C, 0x6E]
  else if c.toNat = 0x0C then [0x5C, 0x66]
  else if c.toNat = 0x0D then [0x5C, 0x72]
  else if c.toNat < 0x20 then
    [0x5C, 0x75, 0x30, 0x30] ++
      Utf8.encode [Bytes.hexDigit (c.toNat / 16), Bytes.hexDigit (c.toNat % 16)]
  else Utf8.encodeChar c

/-- A string between its quotes. -/
def printString (text : String) : Bytes :=
  0x22 :: text.toList.flatMap printChar ++ [0x22]

/-- A number. -/
def printNumber : Number → Bytes
  | .integer n =>
    (if n < 0 then [0x2D] else []) ++ Utf8.encode (Nat.toDigits 10 n.natAbs)
  | .real x => Utf8.encode x.compactText

/-- Written parts with commas between them. -/
def separated (parts : List Bytes) : Bytes := List.intercalate [0x2C] parts

mutual

/-- A value. -/
def print : Value → Bytes
  | .null => Utf8.encode ['n', 'u', 'l', 'l']
  | .bool true => Utf8.encode ['t', 'r', 'u', 'e']
  | .bool false => Utf8.encode ['f', 'a', 'l', 's', 'e']
  | .number n => printNumber n
  | .string text => printString text
  | .array xs => 0x5B :: separated (printItems xs) ++ [0x5D]
  | .object fs => 0x7B :: separated (printFields fs) ++ [0x7D]

/-- Each item of an array. -/
def printItems : List Value → List Bytes
  | [] => []
  | x :: xs => print x :: printItems xs

/-- Each field of an object, its name, a colon and its value. -/
def printFields : List (String × Value) → List Bytes
  | [] => []
  | (name, x) :: rest => (printString name ++ 0x3A :: print x) :: printFields rest

end

end ChatRelay.Json
