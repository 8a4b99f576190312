import ChatRelay.Number.Binary64

/-! # Shortest decimals

The decimal text of a binary number has as few digits as still read back as that number, and of the
decimals of that length it is the one nearest to it. `Binary64.shortest` finds the digits;
`Decimal.positional` and `Decimal.compact` are the two ways in which they are written.
-/

namespace ChatRelay

/-- The positive decimal `digits · 10 ^ scale`; zero has no digits other than `0`. -/
structure Decimal where
  digits : Nat
  scale : Int
  deriving Repr, DecidableEq

namespace Decimal

/-- Drop the zeros at the end of the digits. -/
def trim (fuel : Nat) (x : Decimal) : Decimal :=
  match fuel with
  | 0 => x
  | fuel + 1 =>
    if x.digits ≠ 0 ∧ x.digits % 10 = 0 then trim fuel ⟨x.digits / 10, x.scale + 1⟩ else x

end Decimal

/-- Number of decimal digits of a natural number; zero has one. -/
def digitCount (n : Nat) : Nat := (Nat.toDigits 10 n).length

/-- The exponent `p` with `10 ^ p ≤ num / den < 10 ^ (p + 1)`, for a positive ratio. -/
def decimalExponent (num den : Nat) : Int :=
  if den ≤ num then (digitCount (num / den) : Int) - 1
  else
    let length := digitCount (den / num)
    if den = num * Nat.pow 10 (length - 1) then 1 - (length : Int) else -(length : Int)

namespace Binary64

/-- Whether `num / den` is nearer to the positive number `x` than to its neighbours, or midway and
    reads as `x` because the mantissa of `x` is even. -/
def reads (x : Binary64) (num den : Nat) : Bool :=
  let (a, b) := rescale num den (x.exponent - 2)
  let low := if x.mantissa = hiddenBit ∧ x.exponent ≠ leastExponent then 4 * x.mantissa - 1
    else 4 * x.mantissa - 2
  let high := 4 * x.mantissa + 2
  if x.mantissa % 2 = 0 then decide (low * b ≤ a) && decide (a ≤ high * b)
  else decide (low * b < a) && decide (a < high * b)

/-- Of the two decimals with `count` digits around the positive number `x`, the nearer of those
    that read as `x`. -/
def decimalOfLength? (x : Binary64) (count : Nat) : Option Decimal :=
  let (num, den) := x.ratio
  let scale := decimalExponent num den - count + 1
  let (n, d) : Nat × Nat :=
    if 0 ≤ scale then (num, den * Nat.pow 10 scale.toNat)
    else (num * Nat.pow 10 (-scale).toNat, den)
  let floor := n / d
  let rest := n % d
  let fits (digits : Nat) : Bool :=
    if 0 ≤ scale then x.reads (digits * Nat.pow 10 scale.toNat) 1
    else x.reads digits (Nat.pow 10 (-scale).toNat)
  let below := fits floor
  let above := fits (floor + 1)
  let nearerBelow := 2 * rest < d ∨ (2 * rest = d ∧ floor % 2 = 0)
  if below ∧ (nearerBelow ∨ !above) then some ⟨floor, scale⟩
  else if above then some ⟨floor + 1, scale⟩
  else none

/-- The shortest decimal that reads as the magnitude of `x`, without zeros at the end. Seventeen
    digits always suffice. -/
def shortest (x : Binary64) : Decimal :=
  if x.isZero then ⟨0, 0⟩
  else
    match (List.range 17).findSome? fun count => x.decimalOfLength? (count + 1) with
    | some decimal => decimal.trim 17
    | none => ⟨0, 0⟩

end Binary64

namespace Decimal

/-- Digits with the decimal point where it belongs, and no exponent; an integer has no point. -/
def positional (x : Decimal) : List Char :=
  let digits := Nat.toDigits 10 x.digits
  if 0 ≤ x.scale then
    if x.digits = 0 then digits else digits ++ List.replicate x.scale.toNat '0'
  else
    let places := (-x.scale).toNat
    if places < digits.length then
      digits.take (digits.length - places) ++ '.' :: digits.drop (digits.length - places)
    else '0' :: '.' :: List.replicate (places - digits.length) '0' ++ digits

/-- Positional with at least one digit after the point from `10 ^ -5` to below `10 ^ 16`; outside,
    one digit before the point and a signed exponent. -/
def compact (x : Decimal) : List Char :=
  let digits := Nat.toDigits 10 x.digits
  let point : Int := digits.length + x.scale
  if x.digits = 0 then ['0', '.', '0']
  else if -5 < point ∧ point ≤ 16 then
    if 0 ≤ x.scale then x.positional ++ ['.', '0'] else x.positional
  else
    let lead := match digits with
      | [] | [_] => digits
      | d :: rest => d :: '.' :: rest
    let exponent := point - 1
    lead ++ 'e' :: (if exponent < 0 then '-' else '+') :: Nat.toDigits 10 exponent.natAbs

end Decimal

namespace Binary64

/-- The sign, and the shortest decimal in compact form. -/
def compactText (x : Binary64) : List Char :=
  (if x.negative then ['-'] else []) ++ x.shortest.compact

/-- The sign, and the shortest decimal in positional form. -/
def positionalText (x : Binary64) : List Char :=
  (if x.negative then ['-'] else []) ++ x.shortest.positional

end Binary64
end ChatRelay
