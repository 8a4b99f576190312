import ChatRelay.Proofs.Text.ByteOrder
import ChatRelay.Redis.Store

/-! # Texts and numbers come back

What was written as UTF-8 or in decimal digits is read back as it was.
-/

namespace ChatRelay

namespace Utf8

/-- A character of ASCII is one byte. -/
theorem encodeChar_low {c : Char} (low : c.toNat < 0x80) :
    encodeChar c = [UInt8.ofNat c.toNat] := by
  rw [encodeChar, encodeCode, if_pos low]

/-- A byte of a character is high, or it is the whole character. -/
theorem mem_encodeChar {c : Char} {b : UInt8} (member : b ∈ encodeChar c) :
    0x80 ≤ b.toNat ∨ c.toNat < 0x80 ∧ b = UInt8.ofNat c.toNat := by
  have valid := toNat_lt c
  have high {n : Nat} (least : 0x80 ≤ n) (small : n < 0x100) : 0x80 ≤ (UInt8.ofNat n).toNat := by
    rwa [UInt8.toNat_ofNat', Nat.mod_eq_of_lt small]
  unfold encodeChar encodeCode at member
  split at member
  · next one => exact .inr ⟨one, List.mem_singleton.mp member⟩
  · left
    split at member
    · simp only [List.mem_cons, List.not_mem_nil, or_false] at member
      rcases member with rfl | rfl <;> apply high <;> omega
    · split at member
      · simp only [List.mem_cons, List.not_mem_nil, or_false] at member
        rcases member with rfl | rfl | rfl <;> apply high <;> omega
      · simp only [List.mem_cons, List.not_mem_nil, or_false] at member
        rcases member with rfl | rfl | rfl | rfl <;> apply high <;> omega

theorem charOfCode?_toNat (c : Char) : charOfCode? c.toNat = some c := by
  have valid : c.toNat.isValidChar := c.valid
  rw [charOfCode?, dif_pos valid]
  rfl

theorem accept_toNat {least : Nat} {c : Char} (enough : least ≤ c.toNat) (rest : Bytes) :
    accept least c.toNat rest = some (c, rest) := by
  rw [accept, if_neg (Nat.not_lt.mpr enough), charOfCode?_toNat, Option.map_some]

theorem continuation?_ofNat {n : Nat} (small : n < 64) :
    continuation? (UInt8.ofNat (0x80 + n)) = some n := by
  have byte : (UInt8.ofNat (0x80 + n)).toNat = 0x80 + n := by
    rw [UInt8.toNat_ofNat', Nat.mod_eq_of_lt (by omega)]
  rw [continuation?, byte, if_pos (by omega), Nat.add_sub_cancel_left]

/-- A character is read back, whatever comes after it. -/
theorem decodeChar?_encodeChar (c : Char) (rest : Bytes) :
    decodeChar? (encodeChar c ++ rest) = some (c, rest) := by
  have valid := toNat_lt c
  have byte {n : Nat} (small : n < 256) : (UInt8.ofNat n).toNat = n := by
    rw [UInt8.toNat_ofNat', Nat.mod_eq_of_lt small]
  have low (n : Nat) : n % 64 < 64 := Nat.mod_lt n (by decide)
  unfold encodeChar encodeCode
  split
  · next one =>
      simp only [List.cons_append, List.nil_append, decodeChar?,
        byte (show c.toNat < 256 by omega)]
      rw [if_pos one, accept_toNat (Nat.zero_le _)]
  · next more =>
      split
      · next two =>
          simp only [List.cons_append, List.nil_append, decodeChar?,
            byte (show 0xC0 + c.toNat / 64 < 256 by omega), continuation?_ofNat (low _)]
          rw [if_neg (by omega), if_neg (by omega), if_pos (by omega)]
          have code : (0xC0 + c.toNat / 64 - 0xC0) * 64 + c.toNat % 64 = c.toNat := by omega
          rw [code, accept_toNat (by omega)]
      · next more =>
          split
          · next three =>
              simp only [List.cons_append, List.nil_append, decodeChar?,
                byte (show 0xE0 + c.toNat / 4096 < 256 by omega), continuation?_ofNat (low _)]
              rw [if_neg (by omega), if_neg (by omega), if_neg (by omega), if_pos (by omega)]
              have code : ((0xE0 + c.toNat / 4096 - 0xE0) * 64 + c.toNat / 64 % 64) * 64 +
                  c.toNat % 64 = c.toNat := by omega
              rw [code, accept_toNat (by omega)]
          · next four =>
              simp only [List.cons_append, List.nil_append, decodeChar?,
                byte (show 0xF0 + c.toNat / 262144 < 256 by omega), continuation?_ofNat (low _)]
              rw [if_neg (by omega), if_neg (by omega), if_neg (by omega), if_neg (by omega),
                if_pos (by omega)]
              have code : (((0xF0 + c.toNat / 262144 - 0xF0) * 64 + c.toNat / 4096 % 64) * 64 +
                  c.toNat / 64 % 64) * 64 + c.toNat % 64 = c.toNat := by omega
              rw [code, accept_toNat (by omega)]

theorem decode?_encode (text : List Char) : decode? (encode text) = some text := by
  induction text with
  | nil => simp [encode, decode?]
  | cons c text ih =>
      have whole : encode (c :: text) = encodeChar c ++ encode text := List.flatMap_cons
      obtain ⟨byte, bytes, cut⟩ : ∃ byte bytes, encode (c :: text) = byte :: bytes := by
        apply List.exists_cons_of_ne_nil
        intro empty
        have read := decodeChar?_encodeChar c (encode text)
        rw [← whole, empty] at read
        cases read
      have first : decodeChar? (byte :: bytes) = some (c, encode text) := by
        rw [← cut, whole, decodeChar?_encodeChar]
      rw [cut, decode?]
      split
      · next none => cases none.symm.trans first
      · next c' tail read =>
          cases read.symm.trans first
          rw [ih, Option.map_some]

theorem toString?_ofString (text : String) : toString? (ofString text) = some text := by
  rw [toString?, ofString, decode?_encode, Option.map_some, String.ofList_toList]

theorem mapM_toString? (texts : List String) :
    (texts.map ofString).mapM toString? = some texts := by
  induction texts with
  | nil => rfl
  | cons text texts ih => simp [ih, toString?_ofString]

theorem ofString_injective {text text' : String} (same : ofString text = ofString text') :
    text = text' := by
  rw [← Option.some_inj, ← toString?_ofString, same, toString?_ofString]

end Utf8

namespace Text

theorem digitsValue_eq (start : Nat) (digits : List Char) :
    digitsValue start digits = Nat.ofDigitChars 10 digits start := by
  simp only [digitsValue, Nat.ofDigitChars, Nat.mul_comm 10]
  rfl

theorem digitsValue_toDigits (n : Nat) : digitsValue 0 (Nat.toDigits 10 n) = n := by
  rw [digitsValue_eq, Nat.ofDigitChars_toDigits (by decide) (by decide)]

theorem isDigit_toDigits {n : Nat} {c : Char} (member : c ∈ Nat.toDigits 10 n) :
    c.isDigit = true :=
  Nat.isDigit_of_mem_toDigits (by decide) (by decide) member

theorem digits_toDigits (n : Nat) :
    ((Nat.toDigits 10 n).isEmpty || !(Nat.toDigits 10 n).all Char.isDigit) = false := by
  have digits : (Nat.toDigits 10 n).all Char.isDigit = true :=
    List.all_eq_true.mpr fun _ => isDigit_toDigits
  rw [digits, Bool.not_true, Bool.or_false, List.isEmpty_eq_false_iff]
  exact Nat.toDigits_ne_nil

/-- The digits of a number have no sign in front. -/
theorem toDigits_ne_cons {n : Nat} {sign : Char} (sign_not_digit : sign.isDigit = false)
    (rest : List Char) : Nat.toDigits 10 n ≠ sign :: rest := by
  intro first
  have digit : sign.isDigit = true := isDigit_toDigits (by rw [first]; exact List.mem_cons_self)
  exact Bool.false_ne_true (sign_not_digit.symm.trans digit)

theorem natural?_toDigits (n : Nat) : natural? (Nat.toDigits 10 n) = some n := by
  unfold natural?
  split
  · next rest first => exact absurd first (toDigits_ne_cons (by decide) rest)
  · simp only [digits_toDigits, Bool.false_eq_true, if_false, digitsValue_toDigits]

theorem isWord_of_le {n : Int} {bound : Nat} (floor : 0 ≤ n) (ceiling : n ≤ bound)
    (little : bound < 9223372036854775808) : isWord n = true := by
  simp only [isWord, Bool.and_eq_true, decide_eq_true_eq]
  omega

end Text

namespace Redis

theorem decode?_ofInteger (n : Int) :
    (Utf8.decode? (ofInteger n)).bind Text.integer? = some n := by
  unfold ofInteger
  split
  · next negative =>
      have minus (digits : List Char) :
          0x2D :: Utf8.encode digits = Utf8.encode ('-' :: digits) := rfl
      rw [minus, Utf8.decode?_encode, Option.bind_some, Text.integer?]
      simp only [Text.digits_toDigits, Bool.false_eq_true, if_false, Text.digitsValue_toDigits]
      exact congrArg some (by omega)
  · next positive =>
      rw [Utf8.decode?_encode, Option.bind_some]
      unfold Text.integer?
      split
      · next digits first => exact absurd first (Text.toDigits_ne_cons (by decide) digits)
      · rw [Text.natural?_toDigits, Option.map_some]
        exact congrArg some (Int.natAbs_of_nonneg (Int.not_lt.mp positive))

theorem ofInteger_injective : Function.Injective ofInteger := by
  intro m n same
  rw [← Option.some_inj, ← decode?_ofInteger, same, decode?_ofInteger]

/-- A word is read back from the value that it was written to. -/
theorem integer?_ofInteger {n : Int} (word : Text.isWord n = true) :
    integer? (ofInteger n) = some n := by
  rw [integer?, decode?_ofInteger, Option.filter_some, if_pos word]

end Redis
end ChatRelay
