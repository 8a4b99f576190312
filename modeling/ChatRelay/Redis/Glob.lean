import ChatRelay.Bytes

/-! # Channel patterns

A subscription names channels by a pattern: a star stands for any bytes, a question mark for any one
byte, brackets for one byte of a class, and a backslash takes the meaning from the byte after it.
All other bytes stand for themselves.
-/

namespace ChatRelay.Redis

/-- One element of a pattern. -/
inductive GlobItem where
  /-- Any bytes. -/
  | anything
  /-- Any one byte. -/
  | anyByte
  /-- One byte that lies in one of the ranges, or in none of them if `negated`. -/
  | oneOf (negated : Bool) (ranges : List (UInt8 × UInt8))
  | exact (byte : UInt8)
  deriving Repr, DecidableEq

namespace Glob

/-- The ranges of a class, and what follows its closing bracket. A class that is not closed goes on
    to the end. -/
def classRanges : Bytes → List (UInt8 × UInt8) × Bytes
  | 0x5D :: rest => ([], rest)
  | 0x5C :: b :: rest =>
    let (ranges, rest) := classRanges rest
    ((b, b) :: ranges, rest)
  | a :: 0x2D :: b :: rest =>
    let (ranges, rest) := classRanges rest
    ((min a b, max a b) :: ranges, rest)
  | b :: rest =>
    let (ranges, rest) := classRanges rest
    ((b, b) :: ranges, rest)
  | [] => ([], [])

theorem length_classRanges_le (pattern : Bytes) :
    (classRanges pattern).2.length ≤ pattern.length := by
  fun_induction classRanges pattern <;> simp_all <;> omega

/-- The elements of a pattern. -/
def items : Bytes → List GlobItem
  | [] => []
  | 0x2A :: rest => .anything :: items rest
  | 0x3F :: rest => .anyByte :: items rest
  | 0x5B :: 0x5E :: rest =>
    have := length_classRanges_le rest
    .oneOf true (classRanges rest).1 :: items (classRanges rest).2
  | 0x5B :: rest =>
    have := length_classRanges_le rest
    .oneOf false (classRanges rest).1 :: items (classRanges rest).2
  | 0x5C :: b :: rest => .exact b :: items rest
  | b :: rest => .exact b :: items rest
termination_by pattern => pattern.length
decreasing_by all_goals simp_all <;> omega

/-- Whether one element other than the star stands for a byte. -/
def stands (item : GlobItem) (byte : UInt8) : Bool :=
  match item with
  | .anything => false
  | .anyByte => true
  | .oneOf negated ranges => negated != ranges.any fun (low, high) => low ≤ byte && byte ≤ high
  | .exact b => b == byte

/-- Whether the elements of a pattern stand for a text. -/
def fits : List GlobItem → Bytes → Bool
  | [], text => text.isEmpty
  | .anything :: items, [] => fits items []
  | .anything :: items, byte :: text => fits items (byte :: text) || fits (.anything :: items) text
  | _ :: _, [] => false
  | item :: items, byte :: text => stands item byte && fits items text
termination_by items text => items.length + text.length

/-- Whether a text is of a pattern. -/
def matchesText (pattern text : Bytes) : Bool := fits (items pattern) text

end Glob
end ChatRelay.Redis
