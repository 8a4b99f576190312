/-! # White space

The characters with the standard's White_Space property: the ASCII blanks, the next-line control,
and the spaces and separators beyond ASCII.
-/

namespace ChatRelay.Text

/-- Whether a character is white space. -/
def isBlank (c : Char) : Bool :=
  let n := c.toNat
  (0x09 ≤ n && n ≤ 0x0D) || n == 0x20 || n == 0x85 || n == 0xA0 || n == 0x1680 ||
    (0x2000 ≤ n && n ≤ 0x200A) || n == 0x2028 || n == 0x2029 || n == 0x202F || n == 0x205F ||
    n == 0x3000

/-- The rest after the white space in front. -/
def skipBlanks (text : List Char) : List Char := text.dropWhile isBlank

end ChatRelay.Text
