import ChatRelay.Time.Timestamp

/-! # Days and dates

Every day has one valid date, and the date leads back to the day. In years that begin in March the
leap day is the last of its year, so that within an era the days before a year are counted without
looking at months.
-/

namespace ChatRelay.Date

/-- Days of an era before one of its years. -/
def yearStart (year : Int) : Int := 365 * year + year / 4 - year / 100

/-- The year of an era that a day of the era lies in. -/
def yearOfDay (day : Int) : Int := (day - day / 1460 + day / 36524 - day / 146096) / 365

/-- A day with a leap day every four years lies in the year that its count of years without leap
    days gives, once for every four years one day is taken off. -/
theorem year_of_cycles (count lost : Int) {year : Int} (fewer : 0 ≤ count / 1461 - lost)
    (many : count / 1461 - lost ≤ 99) (divides : year = (count - (count - lost) / 1460) / 365) :
    year / 4 = count / 1461 ∧ 365 * year + year / 4 ≤ count ∧
      (count ≤ 365 * year + year / 4 + 364 ∨
        count = 365 * year + year / 4 + 365 ∧ year % 4 = 3) := by
  have taken : (count - lost) / 1460 = count / 1461 ∨
      (count - lost) / 1460 = count / 1461 + 1 ∧ 1361 ≤ count % 1461 := by
    omega
  rcases taken with same | ⟨more, late⟩
  · rw [same] at divides
    have : year = 4 * (count / 1461) + count % 1461 / 365 := by omega
    omega
  · rw [more] at divides
    have : year = 4 * (count / 1461) + 3 := by omega
    omega

/-- A day lies in its year. The last day of a leap year is the 365th after its first. -/
theorem yearOfDay_spec {day : Int} (first : 0 ≤ day) (last : day < 146097) :
    (0 ≤ yearOfDay day ∧ yearOfDay day ≤ 399) ∧ yearStart (yearOfDay day) ≤ day ∧
      (day ≤ yearStart (yearOfDay day) + 364 ∨
        day = yearStart (yearOfDay day) + 365 ∧ yearOfDay day % 4 = 3 ∧
          (yearOfDay day % 100 ≠ 99 ∨ yearOfDay day = 399)) := by
  by_cases lastOne : day = 146096
  · subst lastOne
    decide
  · -- with the missing leap days of its centuries, a day is one of cycles of four years
    have inside : day / 146096 = 0 := by omega
    have divides : yearOfDay day =
        (day + day / 36524 - (day + day / 36524 - day / 36524) / 1460) / 365 := by
      rw [yearOfDay, inside, Int.add_sub_cancel, Int.sub_zero]
      congr 1
      omega
    have cycles := year_of_cycles (day + day / 36524) (day / 36524) (by omega) (by omega) divides
    have century : yearOfDay day / 100 = day / 36524 := by omega
    rw [yearStart, century]
    omega

/-- Days of a year before a month, both counted from March. -/
def monthStart (month : Int) : Int := (153 * month + 2) / 5

/-- Where a day lies: in which era, in which year of it, in which month of that, and at which place
    in the year. Years and months are counted from March. -/
structure Placed (days era year month place : Int) : Prop where
  count : days + 719468 = era * 146097 + yearStart year + place
  year_nonneg : 0 ≤ year
  year_le : year ≤ 399
  place_nonneg : 0 ≤ place
  place_le : place ≤ 364 ∨ place = 365 ∧ year % 4 = 3 ∧ (year % 100 ≠ 99 ∨ year = 399)
  month_nonneg : 0 ≤ month
  month_le : month ≤ 11
  begun : monthStart month ≤ place
  unfinished : place < monthStart (month + 1)

/-- The date of a day, from where the day lies. -/
def ofPlace (era year month place : Int) : Date where
  year := year + era * 400 + (if month < 10 then 0 else 1)
  month := (if month < 10 then month + 3 else month - 9).toNat
  day := (place - monthStart month + 1).toNat

theorem ofDays_placed (days : Int) : ∃ era year month place,
    Placed days era year month place ∧ ofDays days = ofPlace era year month place := by
  obtain ⟨era, eraOf⟩ : ∃ era, era = (days + 719468) / 146097 := ⟨_, rfl⟩
  obtain ⟨day, dayOf⟩ : ∃ day, day = (days + 719468) % 146097 := ⟨_, rfl⟩
  obtain ⟨year, yearOf⟩ : ∃ year, year = yearOfDay day := ⟨_, rfl⟩
  obtain ⟨place, placeOf⟩ : ∃ place, place = day - yearStart year := ⟨_, rfl⟩
  obtain ⟨month, monthOf⟩ : ∃ month, month = (5 * place + 2) / 153 := ⟨_, rfl⟩
  have nonneg : 0 ≤ day := by omega
  have below : day < 146097 := by omega
  have spec := yearOfDay_spec nonneg below
  rw [← yearOf] at spec
  have placed : Placed days era year month place := by
    constructor
    case begun => unfold monthStart; omega
    case unfinished => unfold monthStart; omega
    all_goals omega
  refine ⟨era, year, month, place, placed, ?_⟩
  have date : ofDays days = ⟨year + era * 400 +
        (if (if month < 10 then month + 3 else month - 9) ≤ 2 then 1 else 0),
      (if month < 10 then month + 3 else month - 9).toNat,
      (place - monthStart month + 1).toNat⟩ := by
    subst monthOf placeOf yearOf dayOf eraOf
    rfl
  have early : (if (if month < 10 then month + 3 else month - 9) ≤ 2 then (1 : Int) else 0) =
      if month < 10 then 0 else 1 := by
    have := placed.month_le
    split <;> split <;> omega
  rw [date, early]
  rfl

namespace Placed

variable {days era year month place : Int}

/-- The day of a date is the one that its place tells. -/
theorem toDays (placed : Placed days era year month place) :
    (ofPlace era year month place).toDays = days := by
  obtain ⟨count, least, most, nonneg, leap, first, last, begun, -⟩ := placed
  have months : (((ofPlace era year month place).month : Int) + 9) % 12 = month := by
    simp only [ofPlace]
    split <;> omega
  have years : (if (ofPlace era year month place).month ≤ 2 then
      (ofPlace era year month place).year - 1 else (ofPlace era year month place).year) =
        year + era * 400 := by
    simp only [ofPlace]
    split <;> split <;> omega
  have eras : (year + era * 400) / 400 = era := by omega
  have yearOfEra : (year + era * 400) % 400 = year := by omega
  have day : ((ofPlace era year month place).day : Int) = place - monthStart month + 1 := by
    simp only [ofPlace]
    omega
  unfold Date.toDays
  simp only [months, years, eras, yearOfEra, day]
  unfold monthStart yearStart at *
  omega

theorem isValid (placed : Placed days era year month place) :
    (ofPlace era year month place).isValid = true := by
  obtain ⟨-, least, most, nonneg, leap, first, last, begun, unfinished⟩ := placed
  -- a month that is no February has as many days in every year
  have common (number length : Nat) (month' : (ofPlace era year month place).month = number)
      (length' : ∀ year, daysInMonth year number = length)
      (fits : (place - monthStart month + 1).toNat ≤ length) :
      (ofPlace era year month place).isValid = true := by
    simp only [Date.isValid, month', length', Bool.and_eq_true, decide_eq_true_eq]
    refine ⟨?_, fits⟩
    simp only [ofPlace]
    omega
  have months : month = 0 ∨ month = 1 ∨ month = 2 ∨ month = 3 ∨ month = 4 ∨ month = 5 ∨ month = 6 ∨
      month = 7 ∨ month = 8 ∨ month = 9 ∨ month = 10 ∨ month = 11 := by
    omega
  unfold monthStart at begun unfinished
  rcases months with rfl | rfl | rfl | rfl | rfl | rfl | rfl | rfl | rfl | rfl | rfl | rfl
  · exact common 3 31 rfl (fun _ => rfl) (by unfold monthStart; omega)
  · exact common 4 30 rfl (fun _ => rfl) (by unfold monthStart; omega)
  · exact common 5 31 rfl (fun _ => rfl) (by unfold monthStart; omega)
  · exact common 6 30 rfl (fun _ => rfl) (by unfold monthStart; omega)
  · exact common 7 31 rfl (fun _ => rfl) (by unfold monthStart; omega)
  · exact common 8 31 rfl (fun _ => rfl) (by unfold monthStart; omega)
  · exact common 9 30 rfl (fun _ => rfl) (by unfold monthStart; omega)
  · exact common 10 31 rfl (fun _ => rfl) (by unfold monthStart; omega)
  · exact common 11 30 rfl (fun _ => rfl) (by unfold monthStart; omega)
  · exact common 12 31 rfl (fun _ => rfl) (by unfold monthStart; omega)
  · exact common 1 31 rfl (fun _ => rfl) (by unfold monthStart; omega)
  · have date : ofPlace era year 11 place =
        ⟨year + era * 400 + 1, 2, (place - monthStart 11 + 1).toNat⟩ := rfl
    have long : place = 365 → isLeapYear (year + era * 400 + 1) = true := by
      intro last
      simp only [isLeapYear, Bool.and_eq_true, Bool.or_eq_true, beq_iff_eq, bne_iff_ne]
      omega
    have february : daysInMonth (year + era * 400 + 1) 2 =
        if isLeapYear (year + era * 400 + 1) = true then 29 else 28 := rfl
    rw [date]
    simp only [Date.isValid, february, monthStart, Bool.and_eq_true, decide_eq_true_eq]
    by_cases leapYear : isLeapYear (year + era * 400 + 1) = true
    · rw [if_pos leapYear]
      exact ⟨decide_eq_true (by omega), by omega⟩
    · rw [if_neg leapYear]
      have early : place ≠ 365 := fun last => leapYear (long last)
      exact ⟨decide_eq_true (by omega), by omega⟩

end Placed

/-- The date of a day leads back to it. -/
theorem toDays_ofDays (days : Int) : (ofDays days).toDays = days := by
  obtain ⟨era, year, month, place, placed, date⟩ := ofDays_placed days
  rw [date, placed.toDays]

theorem isValid_ofDays (days : Int) : (ofDays days).isValid = true := by
  obtain ⟨era, year, month, place, placed, date⟩ := ofDays_placed days
  rw [date, placed.isValid]

theorem month_ofDays (days : Int) : (ofDays days).month ≤ 12 := by
  obtain ⟨era, year, month, place, placed, date⟩ := ofDays_placed days
  obtain ⟨-, -, -, -, -, first, last, -, -⟩ := placed
  rw [date, ofPlace]
  simp only
  split <;> omega

theorem day_ofDays (days : Int) : (ofDays days).day ≤ 31 := by
  obtain ⟨era, year, month, place, placed, date⟩ := ofDays_placed days
  obtain ⟨-, -, -, -, -, -, -, begun, unfinished⟩ := placed
  rw [date, ofPlace]
  unfold monthStart at *
  simp only
  omega

end ChatRelay.Date

namespace ChatRelay.Timestamp

/-- The days in range are those of the years in range. -/
theorem year_ofDays {day : Int} (within : inRange day = true) :
    firstYear ≤ (Date.ofDays day).year ∧ (Date.ofDays day).year ≤ lastYear := by
  obtain ⟨era, year, month, place, placed, date⟩ := Date.ofDays_placed day
  obtain ⟨count, least, most, nonneg, leap, first, last, begun, unfinished⟩ := placed
  have bounds : -96465292 ≤ day ∧ day ≤ 95026236 := by
    simpa [inRange, Date.toDays, firstYear, lastYear] using within
  unfold Date.monthStart at begun unfinished
  unfold Date.yearStart at count
  rw [date]
  simp only [Date.ofPlace, firstYear, lastYear]
  constructor
  · have eras : era = -656 ∨ -655 ≤ era := by omega
    rcases eras with rfl | later
    · have years : 256 ≤ year := by omega
      have january : year = 256 → 306 ≤ place := by omega
      split <;> omega
    · split <;> omega
  · have eras : era = 655 ∨ era ≤ 654 := by omega
    rcases eras with rfl | earlier
    · have years : year ≤ 142 := by omega
      have december : year = 142 → place ≤ 305 := by omega
      split <;> omega
    · split <;> omega

end ChatRelay.Timestamp
