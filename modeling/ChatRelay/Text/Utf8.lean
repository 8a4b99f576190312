import ChatRelay.Bytes

/-! # UTF-8

The standard byte form of text: one to four bytes a character, the shortest form only, no
surrogates, nothing above U+10FFFF. `decode?` accepts exactly the valid byte strings; `decodeLossy`
reads any byte string and puts U+FFFD where a valid character breaks off.
-/

namespace ChatRelay.Utf8

/-- The bytes of one character, from its code point. -/
def encodeCode (n : Nat) : Bytes :=
  if n < 0x80 then [UInt8.ofNat n]
  else if n < 0x800 then [UInt8.ofNat (0xC0 + n / 64), UInt8.ofNat (0x80 + n % 64)]
  else if n < 0x10000 then
    [UInt8.ofNat (0xE0 + n / 4096), UInt8.ofNat (0x80 + n / 64 % 64), UInt8.ofNat (0x80 + n % 64)]
  else
    [UInt8.ofNat (0xF0 + n / 262144), UInt8.ofNat (0x80 + n / 4096 % 64),
     UInt8.ofNat (0x80 + n / 64 % 64), UInt8.ofNat (0x80 + n % 64)]

/-- The bytes of one character. -/
def encodeChar (c : Char) : Bytes := encodeCode c.toNat

/-- The bytes of a text given as characters. -/
def encode (text : List Char) : Bytes := text.flatMap encodeChar

/-- The bytes of a text. -/
def ofString (text : String) : Bytes := encode text.toList

/-- A continuation byte gives six bits. -/
def continuation? (b : UInt8) : Option Nat :=
  if 0x80 ≤ b.toNat ∧ b.toNat < 0xC0 then some (b.toNat - 0x80) else none

/-- The character with a code point, unless it is a surrogate or too large. -/
def charOfCode? (n : Nat) : Option Char :=
  if h : n.isValidChar then some (Char.ofNatAux n h) else none

/-- The character with a code point of at least `least`, in front of `rest`. -/
def accept (least code : Nat) (rest : Bytes) : Option (Char × Bytes) :=
  if code < least then none else (charOfCode? code).map (·, rest)

/-- The first character of a byte string and the rest after it; nothing if no valid character
    starts there. -/
def decodeChar? : Bytes → Option (Char × Bytes)
  | [] => none
  | a :: rest =>
    if a.toNat < 0x80 then accept 0 a.toNat rest
    else if a.toNat < 0xC0 then none
    else if a.toNat < 0xE0 then
      match rest with
      | b :: rest =>
        match continuation? b with
        | some x => accept 0x80 ((a.toNat - 0xC0) * 64 + x) rest
        | none => none
      | _ => none
    else if a.toNat < 0xF0 then
      match rest with
      | b :: c :: rest =>
        match continuation? b, continuation? c with
        | some x, some y => accept 0x800 (((a.toNat - 0xE0) * 64 + x) * 64 + y) rest
        | _, _ => none
      | _ => none
    else if a.toNat < 0xF8 then
      match rest with
      | b :: c :: d :: rest =>
        match continuation? b, continuation? c, continuation? d with
        | some x, some y, some z =>
          accept 0x10000 ((((a.toNat - 0xF0) * 64 + x) * 64 + y) * 64 + z) rest
        | _, _, _ => none
      | _ => none
    else none

theorem accept_rest {least code : Nat} {rest left : Bytes} {c : Char}
    (h : accept least code rest = some (c, left)) : left = rest := by
  unfold accept at h
  split at h
  · exact nomatch h
  · obtain ⟨_, _, h⟩ := Option.map_eq_some_iff.1 h
    exact (congrArg Prod.snd h).symm

/-- Reading a character uses up at least one byte. -/
theorem length_lt_of_decodeChar? {data rest : Bytes} {c : Char}
    (h : decodeChar? data = some (c, rest)) : rest.length < data.length := by
  unfold decodeChar? at h
  repeat' split at h
  all_goals first
    | contradiction
    | (rw [accept_rest h]; simp only [List.length_cons]; omega)

/-- The characters of a valid byte string; nothing if any part of it is invalid. -/
def decode? (data : Bytes) : Option (List Char) :=
  match data with
  | [] => some []
  | a :: rest =>
    match h : decodeChar? (a :: rest) with
    | none => none
    | some (c, tail) =>
      have : tail.length < rest.length + 1 := length_lt_of_decodeChar? h
      (decode? tail).map (c :: ·)
termination_by data.length
decreasing_by (try simp only [List.length_cons]); omega

/-- The text of a valid byte string. -/
def toString? (data : Bytes) : Option String := (decode? data).map String.ofList

/-- Whether a byte string is valid. -/
def isValid (data : Bytes) : Bool := (decode? data).isSome

/-- Whether `b` may stand second after the lead byte `a` of a longer character. Some leads allow
    fewer continuations than others: overlong forms, surrogates and code points above U+10FFFF are
    refused at the second byte. -/
def canFollow (a b : Nat) : Bool :=
  if a < 0xC2 || 0xF5 ≤ a then false
  else if a == 0xE0 then 0xA0 ≤ b && b < 0xC0
  else if a == 0xED then 0x80 ≤ b && b < 0xA0
  else if a == 0xF0 then 0x90 ≤ b && b < 0xC0
  else if a == 0xF4 then 0x80 ≤ b && b < 0x90
  else 0x80 ≤ b && b < 0xC0

/-- Length of the longest start of `data` that could still begin a valid character, at least one:
    the bytes that one replacement character stands for. -/
def brokenLength : Bytes → Nat
  | a :: b :: rest =>
    if canFollow a.toNat b.toNat then
      if a.toNat < 0xE0 then 1
      else match rest with
        | c :: _ =>
          if (continuation? c).isSome && 0xF0 ≤ a.toNat then 3 else 2
        | [] => 2
    else 1
  | _ => 1

/-- Read any byte string, with U+FFFD for each longest part that begins no valid character. -/
def decodeLossy (data : Bytes) : List Char :=
  match data with
  | [] => []
  | a :: rest =>
    match h : decodeChar? (a :: rest) with
    | some (c, tail) =>
      have : tail.length < rest.length + 1 := length_lt_of_decodeChar? h
      c :: decodeLossy tail
    | none => '\ufffd' :: decodeLossy (rest.drop (brokenLength (a :: rest) - 1))
termination_by data.length
decreasing_by all_goals (try simp only [List.length_drop, List.length_cons]); omega

end ChatRelay.Utf8
