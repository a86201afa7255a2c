import Cinema.Calendar.Civil

/-!
# Day numbers name dates

`Date.ofDays` turns a day number into a date with the era arithmetic of the proleptic Gregorian
calendar: 400-year eras of 146097 days, each era counted from March 1 of its first year, so that
the leap day is the last day of a year. This module proves that the arithmetic is right: every
day number names a date that exists (`Date.isValid_ofDays`), and that date has the day number it
was made from (`Date.days_ofDays`).

All of it rests on one fact about a day of an era (`yearOfEra_bounds`): the year the formula
gives starts at most 365 days before the day, and only the last year of a four-year cycle, not
closing a century unless it closes the era, reaches the 366th day.
-/

set_option autoImplicit false
set_option relaxedAutoImplicit false

namespace Cinema.Calendar

/-- The year of an era that its day `doe` falls in, counted from March 1: the year starts at most
365 days before the day, and the 366th day of a year is the leap day of a leap year. -/
theorem yearOfEra_bounds (doe : Int) (lo : 0 ≤ doe) (hi : doe ≤ 146096) :
    let yoe := (doe - doe / 1460 + doe / 36524 - doe / 146096) / 365
    0 ≤ yoe ∧ yoe ≤ 399 ∧ 0 ≤ doe - (365 * yoe + yoe / 4 - yoe / 100) ∧
      doe - (365 * yoe + yoe / 4 - yoe / 100) ≤ 365 ∧
      (doe - (365 * yoe + yoe / 4 - yoe / 100) = 365 →
        (yoe + 1) % 4 = 0 ∧ ((yoe + 1) % 100 ≠ 0 ∨ (yoe + 1) % 400 = 0)) := by
  intro yoe
  -- the four-year cycles and the centuries the formula counts agree with the year it gives
  have cycleLo : yoe / 4 ≤ doe / 1460 := by omega
  have cycleHi : doe / 1460 ≤ yoe / 4 + 1 := by omega
  have centuries : yoe / 100 = doe / 36524 - doe / 146096 := by
    have century : doe / 36524 = 0 ∨ doe / 36524 = 1 ∨ doe / 36524 = 2 ∨ doe / 36524 = 3 ∨
        doe / 36524 = 4 := by omega
    rcases century with c | c | c | c | c <;> omega
  refine ⟨by omega, by omega, by omega, by omega, fun last => ?_⟩
  have fourth : (yoe + 1) % 4 = 0 := by
    have r : yoe % 4 = 0 ∨ yoe % 4 = 1 ∨ yoe % 4 = 2 ∨ yoe % 4 = 3 := by omega
    rcases r with r | r | r | r <;> omega
  refine ⟨fourth, ?_⟩
  have c : yoe / 100 = 0 ∨ yoe / 100 = 1 ∨ yoe / 100 = 2 ∨ yoe / 100 = 3 := by omega
  rcases c with c | c | c | c <;> omega

/-- What `Date.ofDays` computes: the era, the year of the era and the day `doy` of that year, both
counted from March 1, then the month `mp` counted from March, and from them the date. -/
theorem Date.ofDays_eq (z : Int) : ∃ era yoe doy mp : Int,
    z + 719468 = era * 146097 + (365 * yoe + yoe / 4 - yoe / 100 + doy) ∧
    0 ≤ yoe ∧ yoe ≤ 399 ∧ 0 ≤ doy ∧ doy ≤ 365 ∧
    (doy = 365 → (yoe + 1) % 4 = 0 ∧ ((yoe + 1) % 100 ≠ 0 ∨ (yoe + 1) % 400 = 0)) ∧
    mp = (5 * doy + 2) / 153 ∧ 0 ≤ mp ∧ mp ≤ 11 ∧ (153 * mp + 2) / 5 ≤ doy ∧
    Date.ofDays z =
      let day := (doy - (153 * mp + 2) / 5 + 1).toNat
      if mp < 10 then ⟨yoe + era * 400, (mp + 3).toNat, day⟩
      else ⟨yoe + era * 400 + 1, (mp - 9).toNat, day⟩ := by
  unfold Date.ofDays
  dsimp only
  generalize hera : (z + 719468) / 146097 = era
  generalize hdoe : z + 719468 - era * 146097 = doe
  have lo : 0 ≤ doe := by omega
  have hi : doe ≤ 146096 := by omega
  obtain ⟨yoeLo, yoeHi, doyLo, doyHi, leap⟩ := yearOfEra_bounds doe lo hi
  generalize (doe - doe / 1460 + doe / 36524 - doe / 146096) / 365 = yoe at *
  generalize hdoy : doe - (365 * yoe + yoe / 4 - yoe / 100) = doy at *
  have mpLo : 0 ≤ (5 * doy + 2) / 153 := by omega
  have mpHi : (5 * doy + 2) / 153 ≤ 11 := by omega
  have dayLo : (153 * ((5 * doy + 2) / 153) + 2) / 5 ≤ doy := by omega
  generalize hmp : (5 * doy + 2) / 153 = mp at *
  refine ⟨era, yoe, doy, mp, by omega, yoeLo, yoeHi, doyLo, doyHi, leap, hmp.symm, mpLo, mpHi,
    dayLo, ?_⟩
  -- January and February close the year that began the March before
  by_cases spring : mp < 10
  · simp [spring]
    omega
  · simp [spring]
    omega

theorem Date.isValid_ofDays (z : Int) : (Date.ofDays z).isValid = true := by
  obtain ⟨era, yoe, doy, mp, -, -, -, doyLo, doyHi, leap, month, mpLo, mpHi, dayLo, named⟩ :=
    Date.ofDays_eq z
  rw [named]
  by_cases february : mp = 11
  · -- a 29th of February is the 366th day of its year, which is then a leap year
    subst february
    simp [Date.isValid, monthLength, isLeap]
    split <;> omega
  · have months : mp = 0 ∨ mp = 1 ∨ mp = 2 ∨ mp = 3 ∨ mp = 4 ∨ mp = 5 ∨ mp = 6 ∨ mp = 7 ∨
        mp = 8 ∨ mp = 9 ∨ mp = 10 := by
      omega
    rcases months with m | m | m | m | m | m | m | m | m | m | m <;> subst m <;>
      simp [Date.isValid, monthLength] <;> omega

theorem Date.days_ofDays (z : Int) : (Date.ofDays z).days = z := by
  obtain ⟨era, yoe, doy, mp, split, yoeLo, yoeHi, doyLo, -, -, month, mpLo, mpHi, dayLo, named⟩ :=
    Date.ofDays_eq z
  rw [named]
  by_cases spring : mp < 10
  · simp [spring, Date.days]
    omega
  · simp [spring, Date.days]
    omega

end Cinema.Calendar
