import Cinema.Proofs.Calendar.Written
import Cinema.Catalog.Normalize

/-!
# Release dates read exactly their own texts

A release date member is read by `releaseDateOf`: a text goes to `Calendar.readDate`, any
other value reads as no date. The reader gives midnight UTC of a date that exists, in the years
1 to 9999, or nothing. On ASCII text it reads exactly the texts `Date.text` writes: four, two and
two digits with dashes between them, naming a date that exists from the year 1 on. So a month
or a day of one digit, a thirteenth month, the year 0, the 29th of February of a common year, a
blank or a line break around the date are all read as no date.

The main statement is `release_dates_read_exactly_their_texts`.
-/

set_option autoImplicit false
set_option relaxedAutoImplicit false

namespace Cinema.Calendar

open Cinema.Text

/-! ## The month and the day fields -/

theorem releaseMonth?_eq_some {a b : Char} {v : Nat} (read : releaseMonth? a b = some v) :
    a.isDigit = true ∧ b.isDigit = true ∧ v = anyDigitsValue [a, b] := by
  unfold releaseMonth? asciiPair? at read
  split at read
  · split at read
    · rename_i digits
      cases read
      refine ⟨digits.1, digits.2, ?_⟩
      simp [anyDigitsValue, digitValue?_of_isDigit a digits.1, digitValue?_of_isDigit b digits.2]
      omega
    · cases read
  · cases read

/-- The day field reads two digits; the second may be of any script after a `1` or a `2`, so it
is ASCII when the text is. -/
theorem releaseDay?_eq_some {a b : Char} {v : Nat} (ascii : b.toNat < 128)
    (read : releaseDay? a b = some v) :
    a.isDigit = true ∧ b.isDigit = true ∧ v = anyDigitsValue [a, b] := by
  unfold releaseDay? at read
  split at read
  · unfold asciiPair? at read
    split at read
    · rename_i digits
      cases read
      refine ⟨digits.1, digits.2, ?_⟩
      simp [anyDigitsValue, digitValue?_of_isDigit a digits.1, digitValue?_of_isDigit b digits.2]
      omega
    · cases read
  · split at read
    · rename_i _ tens
      obtain ⟨w, second, rfl⟩ := Option.map_eq_some_iff.mp read
      have digit : b.isDigit = true := isDigit_of_isAnyDigit ascii (by simp [isAnyDigit, second])
      have first : a.isDigit = true := by
        simp only [Bool.or_eq_true, beq_iff_eq] at tens
        rcases tens with rfl | rfl <;> rfl
      rw [digitValue?_of_isDigit b digit, Option.some.injEq] at second
      subst second
      refine ⟨first, digit, ?_⟩
      simp [anyDigitsValue, digitValue?_of_isDigit a first, digitValue?_of_isDigit b digit]
      omega
    · cases read

theorem releaseMonth?_digits : ∀ m < 13, 1 ≤ m →
    releaseMonth? (Nat.digitChar (m / 10)) (Nat.digitChar (m % 10)) = some m := by
  decide

theorem releaseDay?_digits : ∀ d < 32, 1 ≤ d →
    releaseDay? (Nat.digitChar (d / 10)) (Nat.digitChar (d % 10)) = some d := by
  decide

theorem anyDigitsValue_four_lt {y1 y2 y3 y4 : Char}
    (digits : ∀ c ∈ [y1, y2, y3, y4], isAnyDigit c = true) :
    anyDigitsValue [y1, y2, y3, y4] < 10000 := by
  have small : ∀ c ∈ [y1, y2, y3, y4], (digitValue? c).getD 0 < 10 := by
    intro c mem
    obtain ⟨v, read⟩ := Option.isSome_iff_exists.mp (digits c mem)
    rw [read, Option.getD_some]
    exact digitValue?_lt read
  simp only [List.mem_cons, List.not_mem_nil, or_false, forall_eq_or_imp, forall_eq] at small
  simp only [anyDigitsValue, List.foldl_cons, List.foldl_nil]
  omega

/-! ## Reading -/

/-- What `readDate` reads: ten characters, the date of the first four, the fifth and sixth
and the last two, which must exist from the year 1 on, at midnight UTC. Four digits keep the
year below 10000. -/
theorem readDate_eq_some {s : String} {m : Moment} (read : readDate s = some m) :
    ∃ y1 y2 y3 y4 m1 m2 d1 d2 : Char, ∃ month day : Nat,
      s.toList = [y1, y2, y3, y4, '-', m1, m2, '-', d1, d2] ∧
      (∀ c ∈ [y1, y2, y3, y4], isAnyDigit c = true) ∧
      releaseMonth? m1 m2 = some month ∧ releaseDay? d1 d2 = some day ∧
      (Date.mk (anyDigitsValue [y1, y2, y3, y4]) month day).isValid = true ∧
      (Date.mk (anyDigitsValue [y1, y2, y3, y4]) month day).inRange = true ∧
      m = Moment.ofLocal ⟨anyDigitsValue [y1, y2, y3, y4], month, day⟩ 0 0 := by
  unfold readDate at read
  split at read
  · rename_i y1 y2 y3 y4 m1 m2 d1 d2 chars
    split at read
    · rename_i digits
      simp only [bind, Option.bind_eq_some_iff] at read
      obtain ⟨month, monthRead, day, dayRead, built⟩ := read
      split at built
      · rename_i exists_
        cases built
        simp only [List.all_eq_true] at digits
        have yearDigits : ∀ c ∈ [y1, y2, y3, y4], isAnyDigit c = true := fun c mem =>
          digits c (List.mem_append_left [m1, m2, d1, d2] mem)
        have inRange : (Date.mk (anyDigitsValue [y1, y2, y3, y4]) month day).inRange = true := by
          have below := anyDigitsValue_four_lt yearDigits
          have positive := exists_.2
          simp only [Date.inRange, Bool.and_eq_true, decide_eq_true_eq]
          omega
        exact ⟨y1, y2, y3, y4, m1, m2, d1, d2, month, day, chars, yearDigits, monthRead, dayRead,
          exists_.1, inRange, rfl⟩
      · cases built
    · cases read
  · cases read

theorem readDate_text {d : Date} (valid : d.isValid = true) (inRange : d.inRange = true) :
    readDate d.text = some (Moment.ofLocal d 0 0) := by
  have months := Date.bounds_of_isValid valid
  obtain ⟨y1, y2, y3, y4, yearChars, chars⟩ := Date.text_toList_eq valid inRange
  have yearDigits : ∀ c ∈ [y1, y2, y3, y4], c.isDigit = true := fun c mem =>
    isDigit_of_mem_padded (yearChars ▸ mem)
  have yearValue : anyDigitsValue [y1, y2, y3, y4] = d.year.toNat := by
    rw [← yearChars, anyDigitsValue_padded]
  have monthDigits := isDigit_digitChar_div_mod (show d.month < 100 by omega)
  have dayDigits := isDigit_digitChar_div_mod (show d.day < 100 by omega)
  simp only [Date.inRange, Bool.and_eq_true, decide_eq_true_eq] at inRange
  simp only [List.mem_cons, List.not_mem_nil, or_false, forall_eq_or_imp, forall_eq]
    at yearDigits
  unfold readDate
  rw [chars]
  simp only [List.all_cons, List.all_nil, Catalog.Text.isAnyDigit_of_isDigit, yearDigits,
    monthDigits, dayDigits, Bool.and_true, if_true]
  simp only [bind, releaseMonth?_digits d.month (by omega) months.1,
    releaseDay?_digits d.day (by omega) months.2.2.1, Option.bind_some, yearValue,
    Int.toNat_of_nonneg (show 0 ≤ d.year by omega)]
  rw [if_pos ⟨valid, inRange.1⟩]

/-- For ASCII text the reader reads exactly the texts of dates that exist in the years 1 to
9999. -/
theorem readDate_isSome_iff {s : String} (ascii : ∀ c ∈ s.toList, c.toNat < 128) :
    (readDate s).isSome = true ↔
      ∃ d : Date, d.isValid = true ∧ d.inRange = true ∧ s = d.text := by
  constructor
  · intro read
    obtain ⟨m, read⟩ := Option.isSome_iff_exists.mp read
    obtain ⟨y1, y2, y3, y4, m1, m2, d1, d2, month, day, chars, yearDigits, monthRead, dayRead,
      valid, inRange, -⟩ := readDate_eq_some read
    have asciiAt : ∀ c ∈ [y1, y2, y3, y4, '-', m1, m2, '-', d1, d2], c.toNat < 128 :=
      chars ▸ ascii
    obtain ⟨m1Digit, m2Digit, monthValue⟩ := releaseMonth?_eq_some monthRead
    obtain ⟨d1Digit, d2Digit, dayValue⟩ := releaseDay?_eq_some (asciiAt d2 (by simp)) dayRead
    have yearAscii : ∀ c ∈ [y1, y2, y3, y4], c.isDigit = true := fun c mem =>
      isDigit_of_isAnyDigit (asciiAt c (List.mem_append_left ['-', m1, m2, '-', d1, d2] mem))
        (yearDigits c mem)
    refine ⟨⟨anyDigitsValue [y1, y2, y3, y4], month, day⟩, valid, inRange, ?_⟩
    · apply String.toList_inj.mp
      have yearText := @padded_anyDigitsValue [y1, y2, y3, y4] (by simp) yearAscii
      have monthText := @padded_anyDigitsValue [m1, m2] (by simp) (by simp [m1Digit, m2Digit])
      have dayText := @padded_anyDigitsValue [d1, d2] (by simp) (by simp [d1Digit, d2Digit])
      simp only [List.length_cons, List.length_nil, Nat.reduceAdd] at yearText monthText dayText
      rw [chars, Date.text_toList]
      dsimp only
      rw [Int.toNat_natCast, monthValue, dayValue, yearText, monthText, dayText]
      rfl
  · rintro ⟨d, valid, inRange, rfl⟩
    rw [readDate_text valid inRange]
    rfl

example : readDate "2000-02-29" = some (Moment.ofLocal ⟨2000, 2, 29⟩ 0 0) := by decide
example : readDate "1900-02-29" = none := by decide
example : readDate "1994-9-3" = none := by decide
example : readDate "2000-02-29\n" = none := by decide

end Cinema.Calendar

namespace Cinema.Catalog

open Cinema.Calendar Cinema.Text

@[simp]
theorem releaseDateOf_str (s : String) : releaseDateOf (.str s) = readDate s := rfl

/-- Release dates: every value reads as nothing or as midnight UTC of a date that exists in the
years 1 to 9999, and a value that is no text as nothing. The text of every date that exists in
those years reads as its midnight UTC, and an ASCII text reads as a date exactly when it is the
text of such a date. -/
theorem release_dates_read_exactly_their_texts :
    (∀ (v : Json.Value) (m : Moment), releaseDateOf v = some m →
      ∃ d : Date, d.isValid = true ∧ d.inRange = true ∧ m = Moment.ofLocal d 0 0) ∧
    (∀ v : Json.Value, (∀ s, v ≠ .str s) → releaseDateOf v = none) ∧
    (∀ d : Date, d.isValid = true → d.inRange = true →
      releaseDateOf (.str d.text) = some (Moment.ofLocal d 0 0)) ∧
    (∀ s : String, (∀ c ∈ s.toList, c.toNat < 128) →
      ((releaseDateOf (.str s)).isSome = true ↔
        ∃ d : Date, d.isValid = true ∧ d.inRange = true ∧ s = d.text)) := by
  refine ⟨fun v m read => ?_, fun v notText => ?_, fun d valid inRange => ?_, fun s ascii => ?_⟩
  · cases v with
    | str s =>
      obtain ⟨y1, y2, y3, y4, -, -, -, -, month, day, -, -, -, -, valid, inRange, midnight⟩ :=
        readDate_eq_some read
      exact ⟨⟨anyDigitsValue [y1, y2, y3, y4], month, day⟩, valid, inRange, midnight⟩
    | null | bool _ | int _ | float _ | arr _ | obj _ => cases read
  · cases v with
    | str s => exact absurd rfl (notText s)
    | null | bool _ | int _ | float _ | arr _ | obj _ => rfl
  · rw [releaseDateOf_str]
    exact readDate_text valid inRange
  · rw [releaseDateOf_str]
    exact readDate_isSome_iff ascii

end Cinema.Catalog
