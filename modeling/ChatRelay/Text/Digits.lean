/-! # Decimal digits

Reading and writing natural numbers in decimal, with ASCII digits only.
-/

namespace ChatRelay.Text

/-- The number that a string of digits stands for, continuing from `start`. -/
def digitsValue (start : Nat) (digits : List Char) : Nat :=
  digits.foldl (fun n d => n * 10 + (d.toNat - 48)) start

/-- The digits at the front, at most `limit` of them, and the rest. -/
def takeDigits : (limit : Nat) → List Char → List Char × List Char
  | limit + 1, c :: rest =>
    if c.isDigit then
      let (ds, rest) := takeDigits limit rest
      (c :: ds, rest)
    else ([], c :: rest)
  | _, rest => ([], rest)

/-- A number of at least one and at most `limit` digits, and the rest. -/
def number? (limit : Nat) (text : List Char) : Option (Nat × List Char) :=
  match takeDigits limit text with
  | ([], _) => none
  | (ds, rest) => some (digitsValue 0 ds, rest)

/-- The number written by a whole text of digits, after an optional plus sign. -/
def natural? (text : List Char) : Option Nat :=
  let digits := match text with
    | '+' :: rest => rest
    | _ => text
  if digits.isEmpty || !digits.all Char.isDigit then none else some (digitsValue 0 digits)

/-- The number written by a whole text of digits, after an optional sign. -/
def integer? (text : List Char) : Option Int :=
  match text with
  | '-' :: digits =>
    if digits.isEmpty || !digits.all Char.isDigit then none else some (-digitsValue 0 digits)
  | _ => (natural? text).map Int.ofNat

/-- Whether a number fits into a signed word of eight bytes. -/
def isWord (n : Int) : Bool := -9223372036854775808 ≤ n && n ≤ 9223372036854775807

/-- Digits of a number, with zeros in front up to `width`. -/
def padded (width n : Nat) : List Char :=
  let digits := Nat.toDigits 10 n
  List.replicate (width - digits.length) '0' ++ digits

/-- A text without the given character at its end. -/
def trimEnd (c : Char) (text : List Char) : List Char :=
  (text.reverse.dropWhile (· == c)).reverse

end ChatRelay.Text
