import ChatRelay.Bytes

/-! # Percent encoding

In request targets a byte may be written as a percent sign and two hexadecimal digits.
`percentDecode` undoes that wherever it is done right and leaves every other percent sign as it is;
`percentEncode` writes in this way every byte that might mean something else.
-/

namespace ChatRelay.Http

/-- The value of a byte that is a hexadecimal digit. -/
def hexByte? (b : UInt8) : Option Nat := Bytes.hexValue? (Char.ofNat b.toNat)

/-- Undo percent encoding. -/
def percentDecode : Bytes → Bytes
  | 0x25 :: a :: b :: rest =>
    match hexByte? a, hexByte? b with
    | some high, some low => UInt8.ofNat (16 * high + low) :: percentDecode rest
    | _, _ => 0x25 :: percentDecode (a :: b :: rest)
  | b :: rest => b :: percentDecode rest
  | [] => []

/-- The ASCII letters and digits, and four marks: bytes that never need encoding. -/
def isUnreserved (b : UInt8) : Bool :=
  (Char.ofNat b.toNat).isAlphanum && b.toNat < 0x80 ||
    b == 0x2D || b == 0x2E || b == 0x5F || b == 0x7E

/-- A hexadecimal digit, upper case, of a number below 16. -/
def hexDigitByte (n : Nat) : UInt8 := UInt8.ofNat (if n < 10 then 0x30 + n else 0x37 + n)

/-- One byte as it may stand in a target. -/
def percentEncodeByte (b : UInt8) : Bytes :=
  if isUnreserved b then [b]
  else [0x25, hexDigitByte (b.toNat / 16), hexDigitByte (b.toNat % 16)]

/-- Bytes as they may stand in a target. -/
def percentEncode (data : Bytes) : Bytes := data.flatMap percentEncodeByte

end ChatRelay.Http
