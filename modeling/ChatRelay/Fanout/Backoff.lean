import ChatRelay.Number.Binary64

/-! # Delays between attempts

The wait before each new attempt to connect doubles from one attempt to the next, up to a bound, and
starts anew after a success. Every wait is scaled by a factor of its own, the jitter, so that
instances do not attempt in step; the factor never enters the schedule.

Times are fractions of a second. A schedule is computed without error, or in 64-bit binary numbers
of seconds of which whole nanoseconds are kept. The latter is the same for all but very long waits:
from about a hundred days on its steps are coarser than a nanosecond, so that a wait can come out a
little longer than the bound.
-/

namespace ChatRelay

/-- How times are computed. -/
inductive Precision where
  /-- Without error. -/
  | exact
  /-- In 64-bit binary numbers of seconds, and kept in whole nanoseconds. -/
  | rounded
  deriving Repr, DecidableEq

namespace Precision

/-- The outcome of one computation. -/
def computed : Precision → Rat → Rat
  | exact, time => time
  | rounded, time => Binary64.nearest time

/-- A kept time as it enters a computation. Whole seconds and the rest are taken over one by one and
    then added up. -/
def reading : Precision → Rat → Rat
  | exact, time => time
  | rounded, time =>
    Binary64.nearest (Binary64.nearest time.floor + Binary64.nearest (time - time.floor))

/-- A computed time as it is kept. -/
def kept : Precision → Rat → Rat
  | exact, time => time
  | rounded, time =>
    mkRat (Binary64.roundToEven (time.num.toNat * 1000000000) time.den) 1000000000

end Precision

/-- The lesser of two fractions. -/
def lesser (a b : Rat) : Rat := if a ≤ b then a else b

/-- A schedule of delays. -/
structure Backoff where
  precision : Precision
  initial : Rat
  bound : Rat
  /-- The delay that comes next, before its jitter. -/
  current : Rat
  deriving Repr

namespace Backoff

/-- The schedule from `initial` up to `bound`. -/
def ofBounds (precision : Precision) (initial bound : Rat) : Backoff :=
  ⟨precision, initial, bound, initial⟩

/-- The schedule between two numbers of milliseconds. -/
def ofMillis (precision : Precision) (initial bound : Nat) : Backoff :=
  ofBounds precision (mkRat initial 1000) (mkRat bound 1000)

/-- The schedule that is used between attempts. -/
def standard : Backoff := ofMillis .exact 100 30000

/-- The delay before the next attempt, and the schedule after it. -/
def next (b : Backoff) (jitter : Rat) : Rat × Backoff :=
  let base := b.precision.reading b.current
  let bound := b.precision.reading b.bound
  (b.precision.kept (lesser (b.precision.computed (jitter * base)) bound),
    { b with current := b.precision.kept (lesser (2 * base) bound) })

/-- Start the schedule anew. -/
def reset (b : Backoff) : Backoff := { b with current := b.initial }

/-- The greatest `k` with `2 ^ k` at most a positive fraction. -/
def floorLog2 (r : Rat) : Int :=
  let guess : Int := (r.num.toNat.log2 : Int) - r.den.log2
  let reached := if 0 ≤ guess then r.den * Nat.pow 2 guess.toNat ≤ r.num.toNat
    else r.den ≤ r.num.toNat * Nat.pow 2 (-guess).toNat
  if reached then guess else guess - 1

/-- How many doublings a delay lies above the initial one, to the nearest whole number; nothing if
    either is zero. A delay within a fifth of the scheduled one has the same number. -/
def octave? (initial delay : Rat) : Option Int :=
  if initial ≤ 0 ∨ delay ≤ 0 then none
  else
    let r := delay / initial
    some ((floorLog2 (r * r) + 1) / 2)

end Backoff
end ChatRelay
