import ChatRelay.Text.CharClass

/-! # Quoted text

Names that appear in error messages are quoted: they stand between double quotes, and every
character that could not be told apart in print is escaped. A quote or a backslash takes a
backslash, line feed, carriage return, tab and NUL have short escapes, and every other character
that is not plain is written by its code point in hexadecimal.
-/

namespace ChatRelay.Text

/-- Lower-case hexadecimal digits of a number, without leading zeros. -/
def hexDigits (n : Nat) : List Char := Nat.toDigits 16 n

/-- How one character is written between the quotes. -/
def quoteChar (c : Char) : List Char :=
  match c with
  | '"' => ['\\', '"']
  | '\\' => ['\\', '\\']
  | '\n' => ['\\', 'n']
  | '\r' => ['\\', 'r']
  | '\t' => ['\\', 't']
  | '\x00' => ['\\', '0']
  | c => if isPlain c then [c] else ['\\', 'u', '\x7b'] ++ hexDigits c.toNat ++ ['\x7d']

/-- A text between double quotes, with every character escaped that needs it. -/
def quoted (text : String) : String :=
  String.ofList ('"' :: text.toList.flatMap quoteChar ++ ['"'])

end ChatRelay.Text
