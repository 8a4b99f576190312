import ChatRelay.Text.Digits

/-! # Spans of time

A length of time in whole nanoseconds, and its text: the largest of the units s, ms, µs and ns that
it fills, with as many decimal places as it needs.
-/

namespace ChatRelay

/-- A length of time. -/
structure Span where
  nanos : Nat
  deriving Repr, DecidableEq

namespace Span

def ofMillis (n : Nat) : Span := ⟨n * 1000000⟩

/-- The span in a unit of `10 ^ places` nanoseconds, without zeros at the end of its fraction. -/
def inUnit (span : Span) (places : Nat) : List Char :=
  let whole := Nat.toDigits 10 (span.nanos / Nat.pow 10 places)
  let fraction := Text.trimEnd '0' (Text.padded places (span.nanos % Nat.pow 10 places))
  if places = 0 ∨ fraction.isEmpty then whole else whole ++ '.' :: fraction

/-- The span in the largest unit that it fills. -/
def text (span : Span) : String :=
  String.ofList <|
    if 1000000000 ≤ span.nanos then span.inUnit 9 ++ ['s']
    else if 1000000 ≤ span.nanos then span.inUnit 6 ++ ['m', 's']
    else if 1000 ≤ span.nanos then span.inUnit 3 ++ ['µ', 's']
    else span.inUnit 0 ++ ['n', 's']

end Span
end ChatRelay
