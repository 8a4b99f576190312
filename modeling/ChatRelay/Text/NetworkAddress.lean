import ChatRelay.Bytes
import ChatRelay.Text.Digits

/-! # Network addresses in text

The written forms of the two kinds of network address. The old kind is four numbers below 256
between dots, without zeros in front. There is a looser form of it: one to four numbers, each in
decimal, octal or hexadecimal notation, of which the last stands for all the bytes that are left.
The new kind is eight groups of hexadecimal digits between
colons; one run of zero groups may be left out, which leaves two colons, and the last two groups may
be written as an address of the old kind.
-/

namespace ChatRelay.Text

/-- Whether a text is a number below 256 without zeros in front. -/
def isOctet (text : List Char) : Bool :=
  !text.isEmpty && text.all Char.isDigit && text.length ≤ 3 && digitsValue 0 text < 256 &&
    (text.length == 1 || text.head? != some '0')

/-- Whether a text is an address of the old kind. -/
def isDotted (text : List Char) : Bool :=
  let parts := text.splitOn '.'
  parts.length == 4 && parts.all isOctet

/-- The number that digits in some base stand for, if all of them are digits of the base. -/
def numberInBase? (base : Nat) (digits : List Char) : Option Nat :=
  digits.foldlM (fun n c =>
    (Bytes.hexValue? c).bind fun d => if d < base then some (n * base + d) else none) 0

/-- A number in the notation that its front shows: `0x` for hexadecimal, `0` for octal, and any
    other digit for decimal. -/
def notedNumber? (text : List Char) : Option Nat :=
  match text with
  | [] => none
  | '0' :: x :: digits =>
    if x == 'x' || x == 'X' then if digits.isEmpty then none else numberInBase? 16 digits
    else numberInBase? 8 (x :: digits)
  | digits => numberInBase? 10 digits

/-- The four bytes of an address that is given by its first bytes and the number that the others
    make up. -/
def addressBytes? (numbers : List Nat) : Option Bytes :=
  match numbers.getLast? with
  | none => none
  | some last =>
    let width := 5 - numbers.length
    if numbers.dropLast.all (· < 256) && last < Nat.pow 256 width && 0 < width then
      some (numbers.dropLast.map UInt8.ofNat ++ (Bytes.littleEndian width last).reverse)
    else none

/-- The four bytes of an address of the old kind in its looser form. -/
def looseAddress? (text : List Char) : Option Bytes :=
  ((text.splitOn '.').mapM notedNumber?).bind addressBytes?

/-- Whether a text is one group of an address of the new kind. -/
def isGroup (text : List Char) : Bool :=
  !text.isEmpty && text.length ≤ 4 && text.all fun c => (Bytes.hexValue? c).isSome

/-- The number that a group stands for. -/
def group? (text : List Char) : Option Nat :=
  if isGroup text then numberInBase? 16 text else none

/-- The two groups that an address of the old kind stands for. -/
def dottedGroups? (text : List Char) : Option (List Nat) :=
  match (text.splitOn '.').map (digitsValue 0) with
  | [a, b, c, d] => if isDotted text then some [256 * a + b, 256 * c + d] else none
  | _ => none

/-- The groups in the parts between colons, if there is no run of zeros left out among them. -/
def groups? : List (List Char) → Option (List Nat)
  | [] => some []
  | [last] => ((group? last).map ([·])).or (dottedGroups? last)
  | part :: rest => (group? part).bind fun group => (groups? rest).map (group :: ·)

/-- Whether a text that starts with a colon starts with two of them; the parts are those between
    colons. -/
def isEdged (parts : List (List Char)) : Bool :=
  match parts with
  | [] :: second :: _ => second.isEmpty
  | _ => true

/-- Without the empty part in front that a text has if it starts with two colons. -/
def dropEdge (parts : List (List Char)) : List (List Char) :=
  match parts with
  | [] :: [] :: rest => [] :: rest
  | _ => parts

/-- The groups in the parts between colons, of which one that is empty is the run of zeros that was
    left out. -/
def allGroups? (parts : List (List Char)) : Option (List Nat) :=
  match parts.dropWhile (!·.isEmpty) with
  | [] => (groups? parts).filter (·.length == 8)
  | _ :: after =>
    match (parts.takeWhile (!·.isEmpty)).mapM group?, groups? after with
    | some front, some back =>
      let left := 8 - (front.length + back.length)
      if left = 0 then none else some (front ++ List.replicate left 0 ++ back)
    | _, _ => none

/-- The eight groups of an address of the new kind. -/
def addressGroups? (text : List Char) : Option (List Nat) :=
  let parts := text.splitOn ':'
  if parts.length < 3 || !isEdged parts || !isEdged parts.reverse then none
  else allGroups? (dropEdge (dropEdge parts).reverse).reverse

/-- Whether a text is an address of the new kind. -/
def isColonSeparated (text : List Char) : Bool := (addressGroups? text).isSome

/-- Whether a text is the number of a zone, which fits in four bytes. -/
def isZone (text : List Char) : Bool :=
  !text.isEmpty && text.all Char.isDigit && digitsValue 0 text < Nat.pow 256 4

/-- The eight groups of an address of the new kind that may have a percent sign and the number of a
    zone behind it. -/
def zonedGroups? (text : List Char) : Option (List Nat) :=
  match text.dropWhile (· != '%') with
  | [] => addressGroups? text
  | _ :: zone => if isZone zone then addressGroups? (text.takeWhile (· != '%')) else none

/-- Whether groups are an address that stands for every address of a machine, or one that wraps an
    address of the old kind. -/
def isUniversal (groups : List Nat) : Bool :=
  groups.all (· == 0) || groups.take 6 == [0, 0, 0, 0, 0, 0xFFFF]

end ChatRelay.Text
