import ChatRelay.Proofs.Text.RoundTrip

/-! # Texts among byte strings

One text begins with another exactly if its bytes do. And any byte of a text can be exchanged for
another one so that a text is left.
-/

namespace ChatRelay.Utf8

theorem ofString_append (text rest : String) :
    ofString (text ++ rest) = ofString text ++ ofString rest := by
  simp [ofString, encode]

theorem encode_prefix {text whole : List Char} (begins : encode text <+: encode whole) :
    text <+: whole := by
  induction text generalizing whole with
  | nil => exact List.nil_prefix
  | cons c text ih =>
      obtain ⟨rest, same⟩ := begins
      have first : encode (c :: text) = encodeChar c ++ encode text := List.flatMap_cons
      rw [first, List.append_assoc] at same
      have read := decodeChar?_encodeChar c (encode text ++ rest)
      rw [same] at read
      cases whole with
      | nil => cases read
      | cons c' whole =>
          have first' : encode (c' :: whole) = encodeChar c' ++ encode whole := List.flatMap_cons
          rw [first', decodeChar?_encodeChar, Option.some.injEq, Prod.mk.injEq] at read
          obtain ⟨rfl, later⟩ := read
          exact List.cons_prefix_cons.mpr ⟨rfl, ih ⟨rest, later.symm⟩⟩

theorem ofString_prefix_iff {text whole : String} :
    ofString text <+: ofString whole ↔ ∃ rest, whole = text ++ rest := by
  constructor
  · intro begins
    obtain ⟨rest, same⟩ := encode_prefix begins
    refine ⟨String.ofList rest, String.toList_inj.mp ?_⟩
    rw [String.toList_append, String.toList_ofList, same]
  · rintro ⟨rest, rfl⟩
    rw [ofString_append]
    exact List.prefix_append _ _

/-! ## Exchanging a byte -/

theorem encodeCode_two {n : Nat} (least : 0x80 ≤ n) (most : n < 0x800) :
    encodeCode n = [UInt8.ofNat (0xC0 + n / 64), UInt8.ofNat (0x80 + n % 64)] := by
  rw [encodeCode, if_neg (by omega), if_pos most]

theorem encodeCode_three {n : Nat} (least : 0x800 ≤ n) (most : n < 0x10000) :
    encodeCode n = [UInt8.ofNat (0xE0 + n / 4096), UInt8.ofNat (0x80 + n / 64 % 64),
      UInt8.ofNat (0x80 + n % 64)] := by
  rw [encodeCode, if_neg (by omega), if_neg (by omega), if_pos most]

theorem encodeCode_four {n : Nat} (least : 0x10000 ≤ n) :
    encodeCode n = [UInt8.ofNat (0xF0 + n / 262144), UInt8.ofNat (0x80 + n / 4096 % 64),
      UInt8.ofNat (0x80 + n / 64 % 64), UInt8.ofNat (0x80 + n % 64)] := by
  rw [encodeCode, if_neg (by omega), if_neg (by omega), if_neg (by omega)]

/-- The bytes of some code point, with another one than `b` between `before` and `after`. -/
def Exchanged (before : Bytes) (b : UInt8) (after : Bytes) : Prop :=
  ∃ m, m.isValidChar ∧ ∃ b', b' ≠ b ∧ encodeCode m = before ++ b' :: after

theorem Exchanged.of_bytes {before after : Bytes} {m x y : Nat} (valid : m.isValidChar)
    (bytes : encodeCode m = before ++ UInt8.ofNat x :: after)
    (apart : x < 256 ∧ y < 256 ∧ x ≠ y) : Exchanged before (UInt8.ofNat y) after := by
  refine ⟨m, valid, _, fun same => ?_, bytes⟩
  have value := congrArg UInt8.toNat same
  rw [UInt8.toNat_ofNat', UInt8.toNat_ofNat', Nat.mod_eq_of_lt apart.1,
    Nat.mod_eq_of_lt apart.2.1] at value
  exact apart.2.2 value

/-- The code point of which only the digit of the weight `unit` to the base 64 is another one, with
    the even and the odd digits in pairs. The limits of the ranges lie between pairs. -/
def neighbour (unit n : Nat) : Nat := if n / unit % 2 = 0 then n + unit else n - unit

theorem exchanged_two {n : Nat} (least : 0x80 ≤ n) (most : n < 0x800) {before after : Bytes}
    {b : UInt8} (cut : encodeCode n = before ++ b :: after) : Exchanged before b after := by
  rw [encodeCode_two least most] at cut
  match before with
  | [] =>
      cases cut
      obtain ⟨rest, least', most', valid, apart⟩ : let m := neighbour 64 n
          m % 64 = n % 64 ∧ 0x80 ≤ m ∧ m < 0x800 ∧ m < 0xD800 ∧ m / 64 ≠ n / 64 := by
        simp only [neighbour]
        split <;> omega
      apply Exchanged.of_bytes (.inl valid)
      · rw [encodeCode_two least' most', rest]
        rfl
      · omega
  | [_] =>
      cases cut
      obtain ⟨rest, least', most', valid, apart⟩ : let m := neighbour 1 n
          m / 64 = n / 64 ∧ 0x80 ≤ m ∧ m < 0x800 ∧ m < 0xD800 ∧ m % 64 ≠ n % 64 := by
        simp only [neighbour]
        split <;> omega
      apply Exchanged.of_bytes (.inl valid)
      · rw [encodeCode_two least' most', rest]
        rfl
      · omega
  | _ :: _ :: _ => simp at cut

/-- The code point of which the digit above those below `unit` is one or two, whichever is another
    one. With these digits anything may stand behind. -/
def relead (unit n : Nat) : Nat := n % unit + unit * if n / unit = 1 then 2 else 1

theorem exchanged_three {n : Nat} (valid : n.isValidChar) (least : 0x800 ≤ n) (most : n < 0x10000)
    {before after : Bytes} {b : UInt8} (cut : encodeCode n = before ++ b :: after) :
    Exchanged before b after := by
  have valid : n < 0xD800 ∨ 0xDFFF < n ∧ n < 0x110000 := valid
  rw [encodeCode_three least most] at cut
  match before with
  | [] =>
      cases cut
      obtain ⟨rest, least', most', valid', apart⟩ : let m := relead 4096 n
          m % 4096 = n % 4096 ∧ 0x800 ≤ m ∧ m < 0x10000 ∧ m < 0xD800 ∧ m / 4096 ≠ n / 4096 := by
        simp only [relead]
        split <;> omega
      obtain ⟨middle, last⟩ :
          relead 4096 n / 64 % 64 = n / 64 % 64 ∧ relead 4096 n % 64 = n % 64 := by
        omega
      apply Exchanged.of_bytes (.inl valid')
      · rw [encodeCode_three least' most', middle, last]
        rfl
      · omega
  | [_] =>
      cases cut
      obtain ⟨first, last, least', most', valid', apart⟩ : let m := neighbour 64 n
          m / 4096 = n / 4096 ∧ m % 64 = n % 64 ∧ 0x800 ≤ m ∧ m < 0x10000 ∧
            (m < 0xD800 ∨ 0xDFFF < m ∧ m < 0x110000) ∧ m / 64 % 64 ≠ n / 64 % 64 := by
        simp only [neighbour]
        split <;> omega
      apply Exchanged.of_bytes valid'
      · rw [encodeCode_three least' most', first, last]
        rfl
      · omega
  | [_, _] =>
      cases cut
      obtain ⟨first, middle, least', most', valid', apart⟩ : let m := neighbour 1 n
          m / 4096 = n / 4096 ∧ m / 64 % 64 = n / 64 % 64 ∧ 0x800 ≤ m ∧ m < 0x10000 ∧
            (m < 0xD800 ∨ 0xDFFF < m ∧ m < 0x110000) ∧ m % 64 ≠ n % 64 := by
        simp only [neighbour]
        split <;> omega
      apply Exchanged.of_bytes valid'
      · rw [encodeCode_three least' most', first, middle]
        rfl
      · omega
  | _ :: _ :: _ :: _ => simp at cut

theorem exchanged_four {n : Nat} (valid : n < 0x110000) (least : 0x10000 ≤ n) {before after : Bytes}
    {b : UInt8} (cut : encodeCode n = before ++ b :: after) : Exchanged before b after := by
  rw [encodeCode_four least] at cut
  match before with
  | [] =>
      cases cut
      obtain ⟨rest, least', valid', apart⟩ : let m := relead 262144 n
          m % 262144 = n % 262144 ∧ 0x10000 ≤ m ∧ m < 0x110000 ∧ m / 262144 ≠ n / 262144 := by
        simp only [relead]
        split <;> omega
      obtain ⟨second, third, last⟩ : let m := relead 262144 n
          m / 4096 % 64 = n / 4096 % 64 ∧ m / 64 % 64 = n / 64 % 64 ∧ m % 64 = n % 64 := by
        dsimp only
        omega
      apply Exchanged.of_bytes (.inr ⟨by omega, valid'⟩)
      · rw [encodeCode_four least', second, third, last]
        rfl
      · omega
  | [_] =>
      cases cut
      obtain ⟨first, third, last, least', valid', apart⟩ : let m := neighbour 4096 n
          m / 262144 = n / 262144 ∧ m / 64 % 64 = n / 64 % 64 ∧ m % 64 = n % 64 ∧ 0x10000 ≤ m ∧
            m < 0x110000 ∧ m / 4096 % 64 ≠ n / 4096 % 64 := by
        simp only [neighbour]
        split <;> omega
      apply Exchanged.of_bytes (.inr ⟨by omega, valid'⟩)
      · rw [encodeCode_four least', first, third, last]
        rfl
      · omega
  | [_, _] =>
      cases cut
      obtain ⟨first, second, last, least', valid', apart⟩ : let m := neighbour 64 n
          m / 262144 = n / 262144 ∧ m / 4096 % 64 = n / 4096 % 64 ∧ m % 64 = n % 64 ∧ 0x10000 ≤ m ∧
            m < 0x110000 ∧ m / 64 % 64 ≠ n / 64 % 64 := by
        simp only [neighbour]
        split <;> omega
      apply Exchanged.of_bytes (.inr ⟨by omega, valid'⟩)
      · rw [encodeCode_four least', first, second, last]
        rfl
      · omega
  | [_, _, _] =>
      cases cut
      obtain ⟨first, second, third, least', valid', apart⟩ : let m := neighbour 1 n
          m / 262144 = n / 262144 ∧ m / 4096 % 64 = n / 4096 % 64 ∧ m / 64 % 64 = n / 64 % 64 ∧
            0x10000 ≤ m ∧ m < 0x110000 ∧ m % 64 ≠ n % 64 := by
        simp only [neighbour]
        split <;> omega
      apply Exchanged.of_bytes (.inr ⟨by omega, valid'⟩)
      · rw [encodeCode_four least', first, second, third]
        rfl
      · omega
  | _ :: _ :: _ :: _ :: _ => simp at cut

/-- Any byte of a character can be exchanged for another one so that a character is left. -/
theorem exists_encodeChar_exchanged {c : Char} {before after : Bytes} {b : UInt8}
    (cut : encodeChar c = before ++ b :: after) :
    ∃ c' b', b' ≠ b ∧ encodeChar c' = before ++ b' :: after := by
  have exchanged : Exchanged before b after := by
    have valid := toNat_lt c
    by_cases one : c.toNat < 0x80
    · have bytes {n : Nat} (small : n < 0x80) : encodeCode n = [UInt8.ofNat n] := if_pos small
      rw [encodeChar, bytes one] at cut
      obtain ⟨rfl, other⟩ := List.singleton_eq_append_iff.mp cut |>.resolve_right (by simp)
      cases other
      have small : neighbour 1 c.toNat < 0x80 ∧ neighbour 1 c.toNat ≠ c.toNat := by
        simp only [neighbour]
        split <;> omega
      apply Exchanged.of_bytes (m := neighbour 1 c.toNat) (.inl (by omega)) (bytes small.1)
      omega
    · by_cases two : c.toNat < 0x800
      · exact exchanged_two (by omega) two cut
      · by_cases three : c.toNat < 0x10000
        · exact exchanged_three (n := c.toNat) c.valid (by omega) three cut
        · exact exchanged_four valid (by omega) cut
  obtain ⟨m, valid, b', other, bytes⟩ := exchanged
  exact ⟨Char.ofNatAux m valid, b', other, bytes⟩

theorem exists_encode_exchanged {text : List Char} {before after : Bytes} {b : UInt8}
    (cut : encode text = before ++ b :: after) :
    ∃ text' b', b' ≠ b ∧ encode text' = before ++ b' :: after := by
  induction text generalizing before with
  | nil => simp [encode] at cut
  | cons c text ih =>
      have whole (c : Char) (text : List Char) : encode (c :: text) = encodeChar c ++ encode text :=
        List.flatMap_cons
      rw [whole] at cut
      rcases List.append_eq_append_iff.mp cut with ⟨middle, rfl, later⟩ | ⟨middle, here, later⟩
      · obtain ⟨text', b', other, bytes⟩ := ih later
        exact ⟨c :: text', b', other, by rw [whole, bytes, List.append_assoc]⟩
      · cases middle with
        | nil =>
            obtain ⟨text', b', other, bytes⟩ := @ih [] later.symm
            refine ⟨c :: text', b', other, ?_⟩
            rw [whole, bytes, here, List.append_nil]
            rfl
        | cons first middle =>
            cases later
            obtain ⟨c', b', other, bytes⟩ := exists_encodeChar_exchanged here
            refine ⟨c' :: text, b', other, ?_⟩
            rw [whole, bytes, List.append_assoc]
            rfl

/-- Any byte of a text can be exchanged for another one so that a text is left. -/
theorem exists_ofString_exchanged {text : String} {before after : Bytes} {b : UInt8}
    (cut : ofString text = before ++ b :: after) :
    ∃ text' b', b' ≠ b ∧ ofString text' = before ++ b' :: after := by
  obtain ⟨text', b', other, bytes⟩ := exists_encode_exchanged cut
  exact ⟨String.ofList text', b', other, by rw [ofString, String.toList_ofList, bytes]⟩

end ChatRelay.Utf8
