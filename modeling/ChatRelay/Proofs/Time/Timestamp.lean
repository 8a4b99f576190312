import ChatRelay.Proofs.Text.Digits
import ChatRelay.Proofs.Time.Calendar

/-! # Timestamps come back

The written form of a timestamp is read as the same timestamp, leap seconds and years of more or
fewer than four digits included. Whatever is read is a timestamp of this kind.
-/

namespace ChatRelay.Timestamp

/-- A timestamp in the years that timestamps can be in. A leap second is counted on from the last
    second of a minute. -/
structure Sound (t : Timestamp) : Prop where
  day : inRange t.day = true
  second : t.second < 86400
  nanos : t.nanos < 2000000000
  leap : 1000000000 ≤ t.nanos → t.second % 60 = 59

section Writing

/-! ## What is written is read -/

open Text (padded)

variable {rest : List Char}

theorem mark?_cons {c : Char} (visible : Text.isBlank c = false) (rest : List Char) :
    mark? c (c :: rest) = some rest := by
  rw [mark?, Text.skipBlanks_cons visible]
  exact if_pos rfl

theorem field?_padded {n : Nat} (small : n < 100) (rest : List Char) :
    field? (padded 2 n ++ rest) = some (n, rest) := by
  rw [field?, Text.skipBlanks_digits (Text.padded_ne_nil 2 n) (Text.isDigit_padded 2 n),
    Text.number?_padded (by decide) small]

theorem noDigit_cons {c : Char} (other : c.isDigit = false) (rest : List Char) :
    Text.NoDigit (c :: rest) := by
  intro first same
  cases same
  exact other

/-- The digits of a year whose sign is read before them. -/
theorem number?_signed (n : Nat) (rest : List Char) :
    Text.number? (padded 4 n ++ '-' :: rest).length (padded 4 n ++ '-' :: rest) =
      some (n, '-' :: rest) := by
  have short : (padded 4 n).length ≤ (padded 4 n ++ '-' :: rest).length := by
    rw [List.length_append]
    exact Nat.le_add_right _ _
  rw [Text.number?_append (Text.padded_ne_nil 4 n) (Text.isDigit_padded 4 n) short
    (.inr (noDigit_cons (by decide) rest)), Text.digitsValue_padded]

theorem year?_yearText (year : Int) (rest : List Char) :
    year? (yearText year ++ '-' :: rest) = some (year, '-' :: rest) := by
  unfold yearText
  split
  · next plain =>
      have value : (year.toNat : Int) = year := Int.toNat_of_nonneg plain.1
      have fits : year.toNat < 10000 := by omega
      have digits := Text.isDigit_padded 4 year.toNat
      have filled := Text.padded_ne_nil 4 year.toNat
      have read := Text.number?_padded (show 0 < 4 by decide) fits ('-' :: rest)
      rw [year?, Text.skipBlanks_digits filled digits]
      generalize padded 4 year.toNat = ds at digits filled read
      cases ds with
      | nil => exact absurd rfl filled
      | cons d ds =>
          have digit := digits d List.mem_cons_self
          rw [List.cons_append] at read ⊢
          split
          · next same =>
              cases same
              exact absurd digit (by decide)
          · next same =>
              cases same
              exact absurd digit (by decide)
          · simp only [read, Option.bind_eq_bind, Option.bind_some, value]
            rfl
  · next signed =>
      by_cases negative : year < 0
      · have value : -(year.natAbs : Int) = year := by omega
        rw [if_pos negative, List.cons_append, year?, Text.skipBlanks_cons (by decide)]
        simp only [number?_signed, Option.bind_eq_bind, Option.bind_some, value]
        rfl
      · have value : (year.natAbs : Int) = year := by omega
        rw [if_neg negative, List.cons_append, year?, Text.skipBlanks_cons (by decide)]
        simp only [number?_signed, Option.bind_eq_bind, Option.bind_some, value]
        rfl

theorem takeDigits_padded {width n : Nat} (positive : 0 < width) (short : width ≤ 9)
    (fits : n < Nat.pow 10 width) : Text.takeDigits 9 (padded width n ++ ['Z']) =
      (padded width n, ['Z']) :=
  Text.takeDigits_append (Text.isDigit_padded width n)
    (Nat.le_trans (Nat.le_of_eq (Text.length_padded positive fits)) short)
    (.inr (noDigit_cons (by decide) []))

/-- A fraction with a given number of places. -/
theorem fraction?_padded {width n : Nat} (positive : 0 < width) (short : width ≤ 9)
    (fits : n < Nat.pow 10 width) :
    fraction? ('.' :: padded width n ++ ['Z']) = some (n * Nat.pow 10 (9 - width), ['Z']) := by
  have taken := takeDigits_padded positive short fits
  have value := Text.digitsValue_padded width n
  have length := Text.length_padded positive fits
  have filled := Text.padded_ne_nil width n
  rw [List.cons_append, fraction?, taken]
  generalize padded width n = ds at value length filled
  cases ds with
  | nil => exact absurd rfl filled
  | cons d ds =>
      simp only [value, length]
      rfl

theorem fraction?_fractionText {nanos : Nat} (small : nanos < 1000000000) :
    fraction? (fractionText nanos ++ ['Z']) = some (nanos, ['Z']) := by
  unfold fractionText
  split
  · next zero =>
      subst zero
      rfl
  split
  · next millis =>
      have fits : nanos / 1000000 < 1000 := by omega
      have value : nanos / 1000000 * 1000000 = nanos := by omega
      rw [fraction?_padded (by decide) (by decide) fits]
      exact congrArg (fun n => some (n, ['Z'])) value
  split
  · next micros =>
      have fits : nanos / 1000 < 1000000 := by omega
      have value : nanos / 1000 * 1000 = nanos := by omega
      rw [fraction?_padded (by decide) (by decide) fits]
      exact congrArg (fun n => some (n, ['Z'])) value
  · rw [fraction?_padded (by decide) (by decide) small]
    exact congrArg (fun n => some (n, ['Z'])) (Nat.mul_one nanos)

theorem date?_format {date : Date} (valid : date.isValid = true) (month : date.month ≤ 12)
    (day : date.day ≤ 31) (years : firstYear ≤ date.year ∧ date.year ≤ lastYear)
    (rest : List Char) :
    date? (yearText date.year ++ '-' :: (padded 2 date.month ++ '-' ::
      (padded 2 date.day ++ rest))) = some (date, rest) := by
  have early : ¬date.year < firstYear := Int.not_lt.mpr years.1
  have late : ¬lastYear < date.year := Int.not_lt.mpr years.2
  simp only [date?, year?_yearText, mark?_cons (show Text.isBlank '-' = false by decide),
    field?_padded (show date.month < 100 by omega), field?_padded (show date.day < 100 by omega),
    Option.bind_eq_bind, Option.bind_some]
  simp only [early, late, valid]
  rfl

/-- The clock of a second that is written with its leap second as the second numbered 60. -/
theorem clock?_format {second nanos : Nat} (day : second < 86400) (most : nanos < 2000000000)
    (leap : 1000000000 ≤ nanos → second % 60 = 59) :
    clock? (padded 2 (second / 3600) ++ ':' :: (padded 2 (second / 60 % 60) ++ ':' ::
      (padded 2 (second % 60 + (if 1000000000 ≤ nanos then 1 else 0)) ++
        (fractionText (if 1000000000 ≤ nanos then nanos - 1000000000 else nanos) ++ ['Z'])))) =
      some ((second, nanos), ['Z']) := by
  have colon : Text.isBlank ':' = false := by decide
  have fraction : (if 1000000000 ≤ nanos then nanos - 1000000000 else nanos) < 1000000000 := by
    split <;> omega
  have shown : second % 60 + (if 1000000000 ≤ nanos then 1 else 0) ≤ 60 := by
    split <;> omega
  simp only [clock?, mark?_cons colon, field?_padded (show second / 3600 < 100 by omega),
    field?_padded (show second / 60 % 60 < 100 by omega),
    field?_padded (show second % 60 + (if 1000000000 ≤ nanos then 1 else 0) < 100 by omega),
    fraction?_fractionText fraction, Option.bind_eq_bind, Option.bind_some]
  have hours : ¬23 < second / 3600 := by omega
  have minutes : ¬59 < second / 60 % 60 := by omega
  simp only [hours, minutes, Nat.not_lt.mpr shown, decide_false, Bool.or_false, Bool.false_eq_true,
    if_false]
  refine congrArg (fun time => some (time, ['Z'])) ?_
  by_cases late : 1000000000 ≤ nanos
  · have last := leap late
    simp only [if_pos late, last, if_true, Prod.mk.injEq]
    omega
  · have inside : ¬second % 60 + 0 = 60 := by omega
    simp only [if_neg late, if_neg inside, Prod.mk.injEq, and_true]
    omega

/-- The written form of a timestamp is read as the timestamp. -/
theorem parse?_format {t : Timestamp} (sound : t.Sound) : parse? t.format = some t := by
  obtain ⟨day, second, nanos, leap⟩ := sound
  have date := date?_format (Date.isValid_ofDays t.day) (Date.month_ofDays t.day)
    (Date.day_ofDays t.day) (year_ofDays day)
  have clock := clock?_format second nanos leap
  have shape : t.format = yearText (Date.ofDays t.day).year ++ '-' ::
      (padded 2 (Date.ofDays t.day).month ++ '-' :: (padded 2 (Date.ofDays t.day).day ++ 'T' ::
        (padded 2 (t.second / 3600) ++ ':' :: (padded 2 (t.second / 60 % 60) ++ ':' ::
          (padded 2 (t.second % 60 + (if 1000000000 ≤ t.nanos then 1 else 0)) ++
            (fractionText (if 1000000000 ≤ t.nanos then t.nanos - 1000000000 else t.nanos) ++
              ['Z'])))))) := by
    simp only [format, List.append_assoc, List.cons_append]
  have zulu : offset? (Text.skipBlanks ['Z']) = some (0, []) := by decide
  have universal : (Date.ofDays t.day).toDays * 86400 + t.second - 0 =
      t.day * 86400 + t.second := by
    rw [Date.toDays_ofDays, Int.sub_zero]
  have days : (t.day * 86400 + t.second) / 86400 = t.day := by omega
  have seconds : ((t.day * 86400 + t.second) % 86400).toNat = t.second := by omega
  rw [shape]
  simp only [parse?, date, clock, zulu, universal, days, day, Option.bind_eq_bind,
    Option.bind_some, ofUnix, seconds]
  rfl

end Writing

section Reading

/-! ## What is read is sound -/

variable {text rest : List Char}

theorem fraction?_lt {nanos : Nat} (read : fraction? text = some (nanos, rest)) :
    nanos < 1000000000 := by
  unfold fraction? at read
  split at read
  · split at read
    · cases read
    · next ds left _ taken =>
        cases read
        obtain ⟨all, short⟩ := Text.takeDigits_spec taken
        have value := Text.digitsValue_lt all 0
        rw [Nat.zero_add, Nat.one_mul] at value
        calc Text.digitsValue 0 ds * Nat.pow 10 (9 - ds.length)
          _ < Nat.pow 10 ds.length * Nat.pow 10 (9 - ds.length) :=
            Nat.mul_lt_mul_of_pos_right value (Nat.pow_pos (by decide))
          _ = Nat.pow 10 9 := by
            have power := Nat.pow_add 10 ds.length (9 - ds.length)
            rw [Nat.add_sub_cancel' short] at power
            exact power.symm
  · cases read
    decide

theorem clock?_sound {second nanos : Nat} (read : clock? text = some ((second, nanos), rest)) :
    second < 86400 ∧ nanos < 2000000000 ∧ (1000000000 ≤ nanos → second % 60 = 59) := by
  unfold clock? at read
  simp only [Option.bind_eq_bind, Option.bind_eq_some_iff, Prod.exists] at read
  obtain ⟨hour, _, -, _, -, minute, _, -, _, -, shown, _, -, fraction, _, read, last⟩ := read
  have small := fraction?_lt read
  split at last
  · cases last
  · next bounds =>
      simp only [Bool.or_eq_true, decide_eq_true_eq, not_or, Nat.not_lt] at bounds
      split at last
      · cases last
        omega
      · cases last
        omega

theorem offsetSize?_minutes {offset : Int} (read : offsetSize? text = some (offset, rest)) :
    offset % 60 = 0 := by
  unfold offsetSize? at read
  simp only [Option.bind_eq_bind, Option.bind_eq_some_iff, Prod.exists] at read
  obtain ⟨hours, _, -, minutes, _, -, last⟩ := read
  split at last
  · cases last
  · cases last
    omega

theorem offset?_minutes {offset : Int} (read : offset? text = some (offset, rest)) :
    offset % 60 = 0 := by
  unfold offset? at read
  split at read
  · cases read
  split at read
  · cases read
    rfl
  split at read
  · cases read
    rfl
  split at read
  · exact offsetSize?_minutes read
  split at read
  · obtain ⟨⟨size, left⟩, inner, same⟩ := Option.map_eq_some_iff.mp read
    have whole := offsetSize?_minutes inner
    cases same
    omega
  · cases read

/-- A timestamp that is read is sound. -/
theorem sound_of_parse? {t : Timestamp} (read : parse? text = some t) : t.Sound := by
  unfold parse? at read
  obtain ⟨⟨date, _⟩, -, read⟩ := Option.bind_eq_some_iff.mp read
  dsimp only at read
  split at read
  · cases read
  split at read
  · cases read
  obtain ⟨⟨⟨second, nanos⟩, _⟩, clock, read⟩ := Option.bind_eq_some_iff.mp read
  obtain ⟨⟨offset, _⟩, zone, read⟩ := Option.bind_eq_some_iff.mp read
  dsimp only at read
  obtain ⟨-, small, leap⟩ := clock?_sound clock
  have minutes := offset?_minutes zone
  split at read
  · cases read
  split at read
  · cases read
  split at read
  · cases read
  · next within =>
      cases read
      rw [Bool.not_eq_true, Bool.not_eq_false'] at within
      refine ⟨within, ?_, small, fun late => ?_⟩
      · simp only [ofUnix]
        omega
      · have last := leap late
        simp only [ofUnix]
        omega

end Reading
end ChatRelay.Timestamp
