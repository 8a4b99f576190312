import ChatRelay.Text.Utf8

/-! # Order of texts and of their bytes

Texts are ordered by their code points. UTF-8 keeps that order, so a listing that ascends by name
also ascends by the bytes of the names.
-/

namespace ChatRelay.Utf8

/-- A smaller code point has smaller bytes, whatever comes after either of them. -/
theorem encodeCode_lt {m n : Nat} (less : m < n) (valid : n < 0x110000) (rest rest' : Bytes) :
    encodeCode m ++ rest < encodeCode n ++ rest' := by
  have shift (k : Nat) : k / 4096 = k / 64 / 64 ∧ k / 262144 = k / 64 / 64 / 64 := by omega
  unfold encodeCode
  simp only [shift m, shift n]
  repeat' split
  all_goals
    simp only [List.cons_append, List.nil_append, List.cons_lt_cons_iff, UInt8.lt_iff_toNat_lt,
      ← UInt8.toNat_inj, UInt8.toNat_ofNat']
    simp (disch := omega) only [Nat.mod_eq_of_lt]
    omega

theorem encodeCode_ne_nil (n : Nat) : encodeCode n ≠ [] := by
  unfold encodeCode
  repeat' split
  all_goals simp

theorem toNat_lt (c : Char) : c.toNat < 0x110000 := by
  rcases c.valid with low | ⟨-, high⟩
  · exact Nat.lt_trans low (by decide)
  · exact high

theorem encode_lt {text text' : List Char} (less : text < text') : encode text < encode text' := by
  induction less with
  | nil =>
      simp only [encode, List.flatMap_nil, List.flatMap_cons]
      obtain ⟨byte, bytes, split⟩ := List.exists_cons_of_ne_nil (encodeCode_ne_nil _)
      rw [encodeChar, split]
      exact .nil
  | rel less =>
      simp only [encode, List.flatMap_cons]
      exact encodeCode_lt (UInt32.lt_iff_toNat_lt.mp less) (toNat_lt _) _ _
  | cons _ ih =>
      simp only [encode, List.flatMap_cons]
      exact List.append_left_lt ih

/-- The order of texts is that of their bytes. -/
theorem ofString_lt {text text' : String} (less : compare text text' = .lt) :
    ofString text < ofString text' := by
  exact encode_lt (String.lt_iff.mp (compareOfLessAndEq_eq_lt.mp less))

end ChatRelay.Utf8
