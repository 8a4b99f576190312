import ChatRelay.Bytes

/-! # Base 64

Bytes as text: three bytes are four digits of six bits each, and equals signs fill up the last four.
-/

namespace ChatRelay.Text

/-- The digit of a number below 64. -/
def base64Digit (n : Nat) : Char :=
  if n < 26 then Char.ofNat (65 + n)
  else if n < 52 then Char.ofNat (71 + n)
  else if n < 62 then Char.ofNat (n - 4)
  else if n = 62 then '+'
  else '/'

/-- The four digits of three bytes. -/
def base64Quad (a b c : UInt8) : List Char :=
  let n := (a.toNat * 256 + b.toNat) * 256 + c.toNat
  [base64Digit (n / 262144), base64Digit (n / 4096 % 64), base64Digit (n / 64 % 64),
    base64Digit (n % 64)]

/-- Bytes in base 64. -/
def base64 : Bytes → List Char
  | a :: b :: c :: rest => base64Quad a b c ++ base64 rest
  | [a, b] => (base64Quad a b 0).take 3 ++ ['=']
  | [a] => (base64Quad a 0 0).take 2 ++ ['=', '=']
  | [] => []

end ChatRelay.Text
