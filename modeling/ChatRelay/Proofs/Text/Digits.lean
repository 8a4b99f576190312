import ChatRelay.Proofs.Text.RoundTrip
import ChatRelay.Text.Blank

/-! # Digits come back

A number that is padded with zeros is read from exactly its digits, whatever comes after them.
-/

namespace ChatRelay.Text

variable {ds rest : List Char} {limit : Nat}

/-- No digit stands here. -/
def NoDigit (rest : List Char) : Prop := ∀ c ∈ rest.head?, c.isDigit = false

theorem takeDigits_append (all : ∀ c ∈ ds, c.isDigit = true) (short : ds.length ≤ limit)
    (ends : ds.length = limit ∨ NoDigit rest) : takeDigits limit (ds ++ rest) = (ds, rest) := by
  induction ds generalizing limit with
  | nil =>
      cases limit with
      | zero => rfl
      | succ limit =>
          cases rest with
          | nil => rfl
          | cons c rest =>
              have other := ends.resolve_left (Nat.succ_ne_zero limit).symm c rfl
              simp only [List.nil_append, takeDigits, other, Bool.false_eq_true, if_false]
  | cons c ds ih =>
      cases limit with
      | zero => exact absurd short (Nat.not_succ_le_zero _)
      | succ limit =>
          have later := ih (fun c member => all c (List.mem_cons_of_mem _ member))
            (Nat.le_of_succ_le_succ short) (ends.imp_left Nat.succ.inj)
          simp only [List.cons_append, takeDigits, all c List.mem_cons_self, if_true, later]

theorem number?_append (filled : ds ≠ []) (all : ∀ c ∈ ds, c.isDigit = true)
    (short : ds.length ≤ limit) (ends : ds.length = limit ∨ NoDigit rest) :
    number? limit (ds ++ rest) = some (digitsValue 0 ds, rest) := by
  rw [number?, takeDigits_append all short ends]
  cases ds with
  | nil => exact absurd rfl filled
  | cons c ds => rfl

theorem isDigit_padded (width n : Nat) : ∀ c ∈ padded width n, c.isDigit = true := by
  intro c member
  rcases List.mem_append.mp member with zero | digit
  · rw [List.eq_of_mem_replicate zero]
    rfl
  · exact isDigit_toDigits digit

theorem padded_ne_nil (width n : Nat) : padded width n ≠ [] := fun empty =>
  Nat.toDigits_ne_nil (List.append_eq_nil_iff.mp empty).2

theorem length_padded {width n : Nat} (positive : 0 < width) (fits : n < Nat.pow 10 width) :
    (padded width n).length = width := by
  have short := (Nat.length_toDigits_le_iff (by decide) positive).mpr fits
  rw [padded, List.length_append, List.length_replicate]
  omega

theorem digitsValue_padded (width n : Nat) : digitsValue 0 (padded width n) = n := by
  rw [padded, digitsValue_eq, Nat.ofDigitChars_append, Nat.ofDigitChars_replicate_zero,
    Nat.mul_zero, ← digitsValue_eq, digitsValue_toDigits]

theorem number?_padded {width n : Nat} (positive : 0 < width) (fits : n < Nat.pow 10 width)
    (rest : List Char) : number? width (padded width n ++ rest) = some (n, rest) := by
  have length := length_padded positive fits
  rw [number?_append (padded_ne_nil width n) (isDigit_padded width n) (Nat.le_of_eq length)
    (.inl length), digitsValue_padded]

theorem isBlank_of_isDigit {c : Char} (digit : c.isDigit = true) : isBlank c = false := by
  obtain ⟨low, high⟩ : 48 ≤ c.toNat ∧ c.toNat ≤ 57 := Char.isDigit_iff_toNat.mp digit
  simp only [isBlank, Bool.or_eq_false_iff, Bool.and_eq_false_iff, decide_eq_false_iff_not,
    beq_eq_false_iff_ne]
  omega

theorem skipBlanks_cons {c : Char} (visible : isBlank c = false) (rest : List Char) :
    skipBlanks (c :: rest) = c :: rest := by
  rw [skipBlanks, List.dropWhile_cons_of_neg (by rw [visible]; decide)]

theorem skipBlanks_digits (filled : ds ≠ []) (all : ∀ c ∈ ds, c.isDigit = true) (rest : List Char) :
    skipBlanks (ds ++ rest) = ds ++ rest := by
  cases ds with
  | nil => exact absurd rfl filled
  | cons c ds => exact skipBlanks_cons (isBlank_of_isDigit (all c List.mem_cons_self)) _

theorem takeDigits_spec {text : List Char} (taken : takeDigits limit text = (ds, rest)) :
    (∀ c ∈ ds, c.isDigit = true) ∧ ds.length ≤ limit := by
  induction limit generalizing text ds with
  | zero =>
      cases taken
      exact ⟨nofun, Nat.le_refl _⟩
  | succ limit ih =>
      cases text with
      | nil =>
          cases taken
          exact ⟨nofun, Nat.zero_le _⟩
      | cons c text =>
          rw [takeDigits] at taken
          split at taken
          · next digit =>
              cases taken
              obtain ⟨all, short⟩ := ih rfl
              exact ⟨List.forall_mem_cons.mpr ⟨digit, all⟩, Nat.succ_le_succ short⟩
          · cases taken
            exact ⟨nofun, Nat.zero_le _⟩

theorem digitsValue_lt (all : ∀ c ∈ ds, c.isDigit = true) (start : Nat) :
    digitsValue start ds < (start + 1) * Nat.pow 10 ds.length := by
  induction ds generalizing start with
  | nil => exact Nat.lt_of_lt_of_eq (Nat.lt_succ_self start) (Nat.mul_one _).symm
  | cons c ds ih =>
      obtain ⟨low, high⟩ : 48 ≤ c.toNat ∧ c.toNat ≤ 57 :=
        Char.isDigit_iff_toNat.mp (all c List.mem_cons_self)
      have later := ih (fun c member => all c (List.mem_cons_of_mem _ member))
        (start * 10 + (c.toNat - 48))
      have next : start * 10 + (c.toNat - 48) + 1 ≤ (start + 1) * 10 := by omega
      calc digitsValue start (c :: ds)
        _ < (start * 10 + (c.toNat - 48) + 1) * Nat.pow 10 ds.length := later
        _ ≤ (start + 1) * 10 * Nat.pow 10 ds.length := Nat.mul_le_mul_right _ next
        _ = (start + 1) * (Nat.pow 10 ds.length * 10) := by rw [Nat.mul_assoc, Nat.mul_comm 10]

end ChatRelay.Text
