import ChatRelay.Json.Printer
import ChatRelay.Json.Reader
import ChatRelay.Proofs.Text.RoundTrip

/-! # Numbers of JSON come back

An integer of 64 bits is read from its digits. Other numbers are read by arithmetic that rounds at
every step, so that some are not read from their own shortest text; whether one is can be computed.
Where a number ends does not depend on what comes after its end.
-/

namespace ChatRelay.Json

/-- Whether a number that ends here really ends: no digit, point or exponent follows. -/
def Stops (rest : Bytes) : Prop :=
  ∀ b ∈ rest.head?, isDigit b = false ∧ b ≠ 0x2E ∧ b ≠ 0x65 ∧ b ≠ 0x45

theorem Stops.nil : Stops [] := nofun

theorem Stops.cons {b : UInt8} (ends : isDigit b = false ∧ b ≠ 0x2E ∧ b ≠ 0x65 ∧ b ≠ 0x45)
    (rest : Bytes) : Stops (b :: rest) := by
  intro first same
  cases same
  exact ends

/-- An integer has to fit into 64 bits, signed or not. -/
def Number.Fits : Number → Prop
  | .integer n => -9223372036854775808 ≤ n ∧ n < 18446744073709551616
  | .real _ => True

/-- Whether a number is read from its own shortest text. -/
def ReadsBack (x : Binary64) : Prop :=
  (number x.negative (Utf8.encode x.shortest.compact)).toOption = some (.real x, [])

instance (x : Binary64) : Decidable (ReadsBack x) :=
  inferInstanceAs (Decidable (_ = _))

section Ends

/-! ## Where a number ends -/

variable {data rest left : Bytes} {negative : Bool} {n : Number}

theorem digits_append (stops : Stops rest) (data : Bytes) :
    digits (data ++ rest) = ((digits data).1, (digits data).2 ++ rest) := by
  induction data with
  | nil =>
      cases rest with
      | nil => rfl
      | cons b rest =>
          have none : ¬isDigit b = true := by
            rw [(stops b rfl).1]
            decide
          simp only [digits, List.nil_append, List.takeWhile_cons_of_neg none,
            List.dropWhile_cons_of_neg none, List.takeWhile_nil, List.dropWhile_nil]
  | cons b data ih =>
      simp only [digits, Prod.mk.injEq, List.cons_append] at ih ⊢
      by_cases digit : isDigit b = true
      · simp only [List.takeWhile_cons_of_pos digit, List.dropWhile_cons_of_pos digit, ih, and_self]
      · simp only [List.takeWhile_cons_of_neg digit, List.dropWhile_cons_of_neg digit,
          List.cons_append, and_self]

theorem map_append {outcome : Except Fault Number}
    (read : outcome.map (·, data) = .ok (n, left)) :
    outcome.map (·, data ++ rest) = .ok (n, left ++ rest) := by
  cases outcome with
  | error fault => cases read
  | ok m =>
      cases read
      rfl

/-- An exponent after its sign, and with it the end of the number. -/
def exponentDigits (negative : Bool) (significand : Nat) (start : Int) (down : Bool) :
    Reader Number := fun data =>
  match data with
  | [] => .error .truncated
  | d :: _ =>
    if !isDigit d then .error .malformed
    else
      let (ds, rest) := digits data
      match exponentValue? ds with
      | some e =>
        let exponent := clampExponent (if down then start - e else start + e)
        (realOfParts negative significand exponent).map (·, rest)
      | none =>
        if significand ≠ 0 ∧ !down then .error .malformed
        else .ok (.real (.zero negative), rest)

/-- The sign of an exponent is over before its digits. -/
theorem exponentPart_cons (negative : Bool) (significand : Nat) (start : Int) (b : UInt8)
    (data : Bytes) : exponentPart negative significand start (b :: data) =
      if b = 0x2B then exponentDigits negative significand start false data
      else if b = 0x2D then exponentDigits negative significand start true data
      else exponentDigits negative significand start false (b :: data) := by
  split
  · next plus =>
      subst plus
      rfl
  · next plus =>
      split
      · next minus =>
          subst minus
          rfl
      · next minus =>
          unfold exponentPart
          split
          next down rest sign =>
            split at sign
            · next same => cases same; exact absurd rfl plus
            · next same => cases same; exact absurd rfl minus
            · cases sign
              rfl

theorem exponentDigits_append {significand : Nat} {start : Int} {down : Bool} (stops : Stops rest)
    (read : exponentDigits negative significand start down data = .ok (n, left)) :
    exponentDigits negative significand start down (data ++ rest) = .ok (n, left ++ rest) := by
  cases data with
  | nil => cases read
  | cons d data =>
      have cut := digits_append stops (d :: data)
      simp only [exponentDigits, List.cons_append] at read cut ⊢
      simp only [cut]
      generalize digits (d :: data) = parts at read ⊢
      split at read
      · cases read
      · next digit =>
          rw [if_neg digit]
          split at read
          · exact map_append read
          · split at read
            · cases read
            · next zero =>
                rw [if_neg zero]
                cases read
                rfl

theorem exponentPart_append {significand : Nat} {start : Int} (stops : Stops rest)
    (read : exponentPart negative significand start data = .ok (n, left)) :
    exponentPart negative significand start (data ++ rest) = .ok (n, left ++ rest) := by
  cases data with
  | nil => cases read
  | cons b data =>
      rw [List.cons_append, exponentPart_cons]
      rw [exponentPart_cons] at read
      split
      · next plus =>
          rw [if_pos plus] at read
          exact exponentDigits_append stops read
      · next plus =>
          rw [if_neg plus] at read
          split
          · next minus =>
              rw [if_pos minus] at read
              exact exponentDigits_append stops read
          · next minus =>
              rw [if_neg minus] at read
              exact exponentDigits_append stops read

theorem realEnd_cons (negative : Bool) (significand : Nat) (exponent : Int) (b : UInt8)
    (data : Bytes) : realEnd negative significand exponent (b :: data) =
      if b = 0x65 ∨ b = 0x45 then exponentPart negative significand exponent data
      else (realOfParts negative significand exponent).map (·, b :: data) := by
  split
  · next exponent => rcases exponent with rfl | rfl <;> rfl
  · next ended =>
      unfold realEnd
      split
      · next same => cases same; exact absurd (.inl rfl) ended
      · next same => cases same; exact absurd (.inr rfl) ended
      · rfl

theorem realEnd_append {significand : Nat} {exponent : Int} (stops : Stops rest)
    (read : realEnd negative significand exponent data = .ok (n, left)) :
    realEnd negative significand exponent (data ++ rest) = .ok (n, left ++ rest) := by
  cases data with
  | nil =>
      rw [List.nil_append]
      cases rest with
      | nil => rwa [List.append_nil]
      | cons b rest =>
          obtain ⟨-, -, small, large⟩ := stops b rfl
          rw [realEnd_cons, if_neg (not_or.mpr ⟨small, large⟩)]
          exact map_append read
  | cons b data =>
      rw [List.cons_append, realEnd_cons]
      rw [realEnd_cons] at read
      split
      · next exponent =>
          rw [if_pos exponent] at read
          exact exponentPart_append stops read
      · next ended =>
          rw [if_neg ended] at read
          exact map_append read

theorem fraction_append {significand : Nat} {start : Int} (stops : Stops rest)
    (read : fraction negative significand start data = .ok (n, left)) :
    fraction negative significand start (data ++ rest) = .ok (n, left ++ rest) := by
  cases data with
  | nil => cases read
  | cons d data =>
      have cut := digits_append stops (d :: data)
      simp only [fraction, List.cons_append] at read cut ⊢
      simp only [cut]
      split at read
      · cases read
      · next digit =>
          rw [if_neg digit]
          exact realEnd_append stops read

/-- What a number without fraction and exponent is. -/
def whole (negative : Bool) (significand dropped : Nat) : Except Fault Number :=
  if dropped ≠ 0 then realOfParts negative significand dropped
  else if !negative then .ok (.integer significand)
  else if significand = 0 ∨ 9223372036854775808 < significand then realOfParts true significand 0
  else .ok (.integer (-significand))

theorem numberEnd_cons (negative : Bool) (significand dropped : Nat) (b : UInt8) (data : Bytes) :
    numberEnd negative significand dropped (b :: data) =
      if b = 0x2E then fraction negative significand dropped data
      else if b = 0x65 ∨ b = 0x45 then exponentPart negative significand dropped data
      else (whole negative significand dropped).map (·, b :: data) := by
  split
  · next point =>
      subst point
      rfl
  · next point =>
      split
      · next exponent => rcases exponent with rfl | rfl <;> rfl
      · next ended =>
          unfold numberEnd
          split
          · next same => cases same; exact absurd rfl point
          · next same => cases same; exact absurd (.inl rfl) ended
          · next same => cases same; exact absurd (.inr rfl) ended
          · unfold whole
            repeat' split
            all_goals rfl

theorem numberEnd_of_stops {significand dropped : Nat} (stops : Stops data) :
    numberEnd negative significand dropped data =
      (whole negative significand dropped).map (·, data) := by
  cases data with
  | nil =>
      simp only [numberEnd, whole]
      repeat' split
      all_goals rfl
  | cons b data =>
      obtain ⟨-, point, small, large⟩ := stops b rfl
      rw [numberEnd_cons, if_neg point, if_neg (not_or.mpr ⟨small, large⟩)]

theorem numberEnd_append {significand dropped : Nat} (stops : Stops rest)
    (read : numberEnd negative significand dropped data = .ok (n, left)) :
    numberEnd negative significand dropped (data ++ rest) = .ok (n, left ++ rest) := by
  cases data with
  | nil =>
      rw [numberEnd_of_stops .nil] at read
      rw [List.nil_append, numberEnd_of_stops stops]
      exact map_append read
  | cons b data =>
      rw [List.cons_append, numberEnd_cons]
      rw [numberEnd_cons] at read
      split
      · next point =>
          rw [if_pos point] at read
          exact fraction_append stops read
      · next point =>
          rw [if_neg point] at read
          split
          · next exponent =>
              rw [if_pos exponent] at read
              exact exponentPart_append stops read
          · next ended =>
              rw [if_neg ended] at read
              exact map_append read

/-- A number ends where it ends, whatever comes after it. -/
theorem number_append (stops : Stops rest) (read : number negative data = .ok (n, left)) :
    number negative (data ++ rest) = .ok (n, left ++ rest) := by
  cases data with
  | nil => cases read
  | cons d data =>
      have cut := digits_append stops (d :: data)
      simp only [number, List.cons_append] at read cut ⊢
      split at read
      · cases read
      · next digit =>
          rw [if_neg digit]
          split at read
          · next zero =>
              rw [if_pos zero]
              cases data with
              | nil =>
                  have last := numberEnd_append stops read
                  cases rest with
                  | nil => exact last
                  | cons b rest =>
                      simp only [List.nil_append, (stops b rfl).1]
                      exact last
              | cons e data =>
                  simp only [List.cons_append] at read ⊢
                  split at read
                  · cases read
                  · next single =>
                      rw [if_neg single]
                      exact numberEnd_append stops read
          · next other =>
              rw [if_neg other, cut]
              exact numberEnd_append stops read

end Ends

section Integers

/-! ## Integers -/

theorem toNat_of_isDigit {c : Char} (digit : c.isDigit = true) : 48 ≤ c.toNat ∧ c.toNat ≤ 57 :=
  Char.isDigit_iff_toNat.mp digit

theorem encode_digits {ds : List Char} (all : ∀ c ∈ ds, c.isDigit = true) :
    Utf8.encode ds = ds.map fun c => UInt8.ofNat c.toNat := by
  induction ds with
  | nil => rfl
  | cons c ds ih =>
      have low : c.toNat < 0x80 := by
        have := toNat_of_isDigit (all c List.mem_cons_self)
        omega
      rw [Utf8.encode, List.flatMap_cons, ← Utf8.encode,
        ih fun c member => all c (List.mem_cons_of_mem _ member), Utf8.encodeChar_low low]
      rfl

theorem digit_byte {c : Char} (digit : c.isDigit = true) :
    isDigit (UInt8.ofNat c.toNat) = true ∧ digitValue (UInt8.ofNat c.toNat) = c.toNat - 48 := by
  obtain ⟨low, high⟩ := toNat_of_isDigit digit
  have byte : (UInt8.ofNat c.toNat).toNat = c.toNat := by
    rw [UInt8.toNat_ofNat', Nat.mod_eq_of_lt (by omega)]
  constructor
  · simp only [isDigit, Bool.and_eq_true, decide_eq_true_eq, UInt8.le_iff_toNat_le, byte]
    exact ⟨low, high⟩
  · rw [digitValue, byte]

theorem le_digitsValue (start : Nat) (ds : List Char) : start ≤ Text.digitsValue start ds := by
  induction ds generalizing start with
  | nil => exact Nat.le_refl _
  | cons c ds ih =>
      have := ih (start * 10 + (c.toNat - 48))
      rw [Text.digitsValue, List.foldl_cons]
      rw [Text.digitsValue] at this
      omega

/-- Digits are gathered as long as their number is not too large. -/
theorem gather_digits {ds : List Char} (all : ∀ c ∈ ds, c.isDigit = true) {start : Nat}
    (small : Text.digitsValue start ds < significandLimit) :
    gather start (ds.map fun c => UInt8.ofNat c.toNat) =
      (ds.length, Text.digitsValue start ds, []) := by
  induction ds generalizing start with
  | nil => rfl
  | cons c ds ih =>
      have value := (digit_byte (all c List.mem_cons_self)).2
      have next : start * 10 + (c.toNat - 48) < significandLimit :=
        Nat.lt_of_le_of_lt (le_digitsValue _ ds) small
      rw [List.map_cons, gather]
      simp only [value, if_pos next, ih (fun c member => all c (List.mem_cons_of_mem _ member)) small]
      rfl

theorem gather_lt {start : Nat} (small : start < significandLimit) (data : Bytes) :
    (gather start data).2.1 < significandLimit := by
  induction data generalizing start with
  | nil => exact small
  | cons d data ih =>
      rw [gather]
      split
      · next next => exact ih next
      · exact small

/-- Only zero begins with a zero. -/
theorem head?_toDigits {n : Nat} (positive : 0 < n) : (Nat.toDigits 10 n).head? ≠ some '0' := by
  induction n using Nat.strongRecOn with
  | ind n ih =>
      by_cases short : n < 10
      · rw [Nat.toDigits_of_lt_base short]
        have apart : ∀ n < 10, 0 < n → [n.digitChar].head? ≠ some '0' := by decide
        exact apart n short positive
      · rw [Nat.toDigits_of_base_le (by decide) (Nat.not_lt.mp short),
          List.head?_append, Option.or_of_isSome (List.isSome_head?.mpr Nat.toDigits_ne_nil)]
        exact ih (n / 10) (by omega) (by omega)

/-- A number that is written by its digits alone is the whole number that they stand for. -/
theorem number_toDigits {negative : Bool} {n : Nat} (small : n < significandLimit) {rest : Bytes}
    (stops : Stops rest) : number negative (Utf8.encode (Nat.toDigits 10 n) ++ rest) =
      (whole negative n 0).map (·, rest) := by
  have ends : numberEnd negative n 0 rest = (whole negative n 0).map (·, rest) :=
    numberEnd_of_stops stops
  rcases Nat.eq_zero_or_pos n with rfl | positive
  · rw [← ends]
    change number negative (0x30 :: rest) = _
    cases rest with
    | nil => rfl
    | cons b rest =>
        have single : ¬isDigit b = true := by
          rw [(stops b rfl).1]
          decide
        change (if isDigit b = true then _ else numberEnd negative 0 0 (b :: rest)) = _
        rw [if_neg single]
  · have all : ∀ c ∈ Nat.toDigits 10 n, c.isDigit = true := fun _ => Text.isDigit_toDigits
    have first := head?_toDigits positive
    have value := Text.digitsValue_toDigits n
    rw [encode_digits all]
    generalize Nat.toDigits 10 n = ds at all first value
    have gathered := gather_digits all (value.symm ▸ small)
    have bytes : ∀ b ∈ ds.map fun c => UInt8.ofNat c.toNat, isDigit b = true := by
      intro b member
      obtain ⟨c, there, rfl⟩ := List.mem_map.mp member
      exact (digit_byte (all c there)).1
    have cut : digits (ds.map (fun c => UInt8.ofNat c.toNat) ++ rest) =
        (ds.map (fun c => UInt8.ofNat c.toNat), rest) := by
      have none : digits rest = ([], rest) := digits_append stops []
      simp only [digits, Prod.mk.injEq] at none ⊢
      rw [List.takeWhile_append_of_pos bytes, List.dropWhile_append_of_pos bytes, none.1, none.2,
        List.append_nil]
      exact ⟨rfl, rfl⟩
    cases ds with
    | nil => exact absurd value (Nat.ne_of_lt positive)
    | cons c ds =>
        have digit := (digit_byte (all c List.mem_cons_self)).1
        have other : UInt8.ofNat c.toNat ≠ 0x30 := by
          intro zero
          obtain ⟨low, high⟩ := toNat_of_isDigit (all c List.mem_cons_self)
          have code : (UInt8.ofNat c.toNat).toNat = 0x30 := by rw [zero]; rfl
          rw [UInt8.toNat_ofNat', Nat.mod_eq_of_lt (by omega)] at code
          exact first (congrArg some (Char.toNat_inj.mp code))
        rw [List.map_cons] at gathered cut ⊢
        rw [List.cons_append] at cut ⊢
        simp only [number, digit, Bool.not_true, Bool.false_eq_true, if_false, if_neg other, cut,
          gathered, value, List.length_nil]
        exact ends

section Fits

/-! ## Numbers that are read fit -/

variable {negative down : Bool} {significand dropped : Nat} {start : Int} {data left : Bytes}
variable {n : Number}

theorem fits_realOfParts (read : realOfParts negative significand start = .ok n) : n.Fits := by
  unfold realOfParts at read
  split at read
  · cases read
    trivial
  · cases read

theorem of_map {outcome : Except Fault Number} (read : outcome.map (·, data) = .ok (n, left)) :
    outcome = .ok n := by
  cases outcome with
  | error fault => cases read
  | ok m =>
      cases read
      rfl

theorem fits_exponentDigits
    (read : exponentDigits negative significand start down data = .ok (n, left)) : n.Fits := by
  unfold exponentDigits at read
  split at read
  · cases read
  · split at read
    · cases read
    · simp only at read
      split at read
      · exact fits_realOfParts (of_map read)
      · split at read
        · cases read
        · cases read
          trivial

theorem fits_exponentPart
    (read : exponentPart negative significand start data = .ok (n, left)) : n.Fits := by
  cases data with
  | nil => cases read
  | cons b data =>
      rw [exponentPart_cons] at read
      split at read
      · exact fits_exponentDigits read
      · split at read <;> exact fits_exponentDigits read

theorem fits_realEnd (read : realEnd negative significand start data = .ok (n, left)) :
    n.Fits := by
  unfold realEnd at read
  split at read
  · exact fits_exponentPart read
  · exact fits_exponentPart read
  · exact fits_realOfParts (of_map read)

theorem fits_fraction (read : fraction negative significand start data = .ok (n, left)) :
    n.Fits := by
  unfold fraction at read
  split at read
  · cases read
  · split at read
    · cases read
    · exact fits_realEnd read

theorem fits_whole (small : significand < significandLimit)
    (read : whole negative significand dropped = .ok n) : n.Fits := by
  unfold significandLimit at small
  unfold whole at read
  split at read
  · exact fits_realOfParts read
  · split at read
    · cases read
      change -9223372036854775808 ≤ (significand : Int) ∧
        (significand : Int) < 18446744073709551616
      omega
    · split at read
      · exact fits_realOfParts read
      · next some =>
          cases read
          change -9223372036854775808 ≤ (-(significand : Int)) ∧
            -(significand : Int) < 18446744073709551616
          omega

theorem fits_numberEnd (small : significand < significandLimit)
    (read : numberEnd negative significand dropped data = .ok (n, left)) : n.Fits := by
  cases data with
  | nil =>
      rw [numberEnd_of_stops .nil] at read
      exact fits_whole small (of_map read)
  | cons b data =>
      rw [numberEnd_cons] at read
      split at read
      · exact fits_fraction read
      · split at read
        · exact fits_exponentPart read
        · exact fits_whole small (of_map read)

theorem fits_number (read : number negative data = .ok (n, left)) : n.Fits := by
  have zero : 0 < significandLimit := by decide
  unfold number at read
  split at read
  · cases read
  · split at read
    · cases read
    · split at read
      · split at read
        · split at read
          · cases read
          · exact fits_numberEnd zero read
        · exact fits_numberEnd zero read
      · exact fits_numberEnd (gather_lt zero _) read

end Fits
end Integers
end ChatRelay.Json
