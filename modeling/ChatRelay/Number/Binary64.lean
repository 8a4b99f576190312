/-! # Finite 64-bit binary numbers

Numbers of the form `± mantissa · 2 ^ exponent` with 53 bits of mantissa and exponents from −1074 to
971, and the operations on them. Each operation is the exact one followed by a single rounding to
the nearest number of the form, a tie going to the even mantissa; a result beyond the largest number
is no number here. Everything is computed on natural numbers.
-/

namespace ChatRelay

/-- A finite number `± mantissa · 2 ^ exponent`. The functions of this module keep the mantissa
    below `2 ^ 53` and use the least exponent that allows it, so equal numbers with equal signs
    are equal values; zero has a sign. -/
structure Binary64 where
  negative : Bool
  mantissa : Nat
  exponent : Int
  deriving Repr, DecidableEq, Inhabited

namespace Binary64

/-- The least mantissa with all 53 bits. -/
def hiddenBit : Nat := 4503599627370496

/-- The exponent below which no precision is left. -/
def leastExponent : Int := -1074

/-- The exponent of the largest numbers. -/
def greatestExponent : Int := 971

/-- Zero of either sign. -/
def zero (negative : Bool) : Binary64 := ⟨negative, 0, leastExponent⟩

/-- The magnitude as a ratio of natural numbers with a positive denominator. -/
def ratio (x : Binary64) : Nat × Nat :=
  if 0 ≤ x.exponent then (x.mantissa * Nat.pow 2 x.exponent.toNat, 1)
  else (x.mantissa, Nat.pow 2 (-x.exponent).toNat)

/-- `num / (den · 2 ^ e)` as a ratio. -/
def rescale (num den : Nat) (e : Int) : Nat × Nat :=
  if 0 ≤ e then (num, den * Nat.pow 2 e.toNat) else (num * Nat.pow 2 (-e).toNat, den)

/-- The natural number nearest to `num / den`, the even one of two. -/
def roundToEven (num den : Nat) : Nat :=
  let q := num / den
  let r := num % den
  if 2 * r < den then q
  else if den < 2 * r then q + 1
  else if q % 2 = 0 then q else q + 1

/-- The exponent with which a positive ratio has a mantissa of 53 bits, or the least exponent. -/
def exponentFor (num den : Nat) : Int :=
  let guess : Int := (num.log2 : Int) - den.log2 - 52
  let (n, d) := rescale num den guess
  max leastExponent (if n < hiddenBit * d then guess - 1 else guess)

/-- The number nearest to `± num / den`; nothing if that is beyond the largest number. -/
def ofRatio? (negative : Bool) (num den : Nat) : Option Binary64 :=
  if num = 0 then some (zero negative)
  else
    let e := exponentFor num den
    let (n, d) := rescale num den e
    let m := roundToEven n d
    let (m, e) := if m = 2 * hiddenBit then (hiddenBit, e + 1) else (m, e)
    if greatestExponent < e then none else some ⟨negative, m, e⟩

/-- The number nearest to a natural number. -/
def ofNat? (negative : Bool) (n : Nat) : Option Binary64 := ofRatio? negative n 1

/-- The fraction that a number is. -/
def value (x : Binary64) : Rat :=
  let (num, den) := x.ratio
  mkRat (if x.negative then -num else num) den

/-- The number nearest to a fraction, as a fraction; one beyond the largest number stays as it
    is. -/
def nearest (r : Rat) : Rat :=
  match ofRatio? (r.num < 0) r.num.natAbs r.den with
  | some x => x.value
  | none => r

/-- The number nearest to `± digits · 10 ^ scale`. -/
def ofDecimal? (negative : Bool) (digits : Nat) (scale : Int) : Option Binary64 :=
  if 0 ≤ scale then ofRatio? negative (digits * Nat.pow 10 scale.toNat) 1
  else ofRatio? negative digits (Nat.pow 10 (-scale).toNat)

/-- The same magnitude with a given sign. -/
def withSign (x : Binary64) (negative : Bool) : Binary64 := { x with negative }

def isZero (x : Binary64) : Bool := x.mantissa == 0

/-- Rounded product. -/
def mul? (x y : Binary64) : Option Binary64 :=
  let (a, b) := x.ratio
  let (c, d) := y.ratio
  ofRatio? (x.negative != y.negative) (a * c) (b * d)

/-- Rounded quotient; there is none by zero. -/
def div? (x y : Binary64) : Option Binary64 :=
  if y.isZero then none
  else
    let (a, b) := x.ratio
    let (c, d) := y.ratio
    ofRatio? (x.negative != y.negative) (a * d) (b * c)

/-- Rounded sum; an exact zero is positive unless both terms are negative. -/
def add? (x y : Binary64) : Option Binary64 :=
  let (a, b) := x.ratio
  let (c, d) := y.ratio
  if x.negative = y.negative then ofRatio? x.negative (a * d + c * b) (b * d)
  else if a * d = c * b then some (zero false)
  else if c * b < a * d then ofRatio? x.negative (a * d - c * b) (b * d)
  else ofRatio? y.negative (c * b - a * d) (b * d)

/-- Whether `x ≤ y` as real numbers. -/
def le (x y : Binary64) : Bool :=
  let (a, b) := x.ratio
  let (c, d) := y.ratio
  match x.negative, y.negative with
  | false, false => decide (a * d ≤ c * b)
  | true, true => decide (c * b ≤ a * d)
  | true, false => true
  | false, true => x.isZero && y.isZero

end Binary64
end ChatRelay
