import Cinema.Proofs.Calendar.Timestamps
import Cinema.Proofs.Catalog.RequestQuery
import Cinema.Reviews.Repository

/-!
# Stored reviews read back from their rows

The store hands a review back as the out-parameter row `(rating, review, created_at, updated_at,
found)`. The repository takes a stored review straight from the stored row (`Review.ofStored`),
while a loose row is read cell by cell (`Review.ofRow`), each time as a stamp in one of the forms
`Stamp.ofText?` reads. The two agree: the text of a moment whose wall clock shows a date in the
years 1 to 9999, at an offset under a day, reads back as the moment's stamp, so the row of every
such stored review, its times written as text, reads as that review.

The main statement is `Review.ofRow_cells`.
-/

set_option autoImplicit false
set_option relaxedAutoImplicit false

namespace Cinema.Calendar

open Cinema.Text

theorem asciiPair?_eq_asciiValue? (a b : Char) : asciiPair? a b = asciiValue? [a, b] := by
  unfold asciiPair? asciiValue?
  by_cases digits : a.isDigit = true ∧ b.isDigit = true
  · simp only [digits, and_self, if_true, List.all_cons, List.all_nil, Bool.and_self, anyDigitsValue, List.foldl_cons, List.foldl_nil,
      digitValue?_of_isDigit a digits.1, digitValue?_of_isDigit b digits.2, Option.getD_some,
      Option.some.injEq]
    omega
  · rw [if_neg digits, if_neg (by simpa using digits)]

theorem asciiPair?_padded {n : Nat} (small : n < 100) :
    asciiPair? (Nat.digitChar (n / 10)) (Nat.digitChar (n % 10)) = some n := by
  rw [asciiPair?_eq_asciiValue?, ← padded_two small, asciiValue?_padded]

/-- A date of the year 1 or later falls on or after 0001-01-01, day `-719162`. -/
theorem Date.firstDay_le_days {d : Date} (valid : d.isValid = true) (year : 1 ≤ d.year) :
    -719162 ≤ d.days := by
  have bounds := Date.bounds_of_isValid valid
  unfold Date.days
  dsimp only
  split <;> split <;> omega

theorem TimestampForm.ascii_of_mem_chars (t : TimestampForm)
    (ascii : ∀ c ∈ t.fraction, c.isDigit = true) {c : Char} (mem : c ∈ t.chars) :
    c.toNat < 128 := by
  have digit : ∀ {d : Char}, d.isDigit = true → d.toNat < 128 := fun digit => by
    have range := Char.isDigit_iff_toNat.mp digit
    simp only [Char.reduceToNat] at range
    omega
  have padded : ∀ {w n : Nat} {d : Char}, d ∈ (Moment.padded w n).toList → d.toNat < 128 :=
    fun mem => digit (isDigit_of_mem_padded mem)
  simp only [chars, List.mem_append, List.mem_cons] at mem
  rcases mem with date | rfl | hour | rfl | minute | rfl | second | fraction | zone
  · simp only [Date.text_toList, List.mem_append, List.mem_cons] at date
    rcases date with year | rfl | month | rfl | day
    · exact padded year
    · decide
    · exact padded month
    · decide
    · exact padded day
  · rcases t.separated with same | same | same <;> rw [same] <;> decide
  · exact padded hour
  · decide
  · exact padded minute
  · decide
  · exact padded second
  · cases fractionText : t.fraction with
    | nil => simp [fractionText, fractionChars] at fraction
    | cons d ds =>
      simp only [fractionText, fractionChars, List.mem_cons] at fraction
      rcases fraction with rfl | rfl | rest
      · decide
      · exact digit (ascii _ (by simp [fractionText]))
      · exact digit (ascii _ (by simp [fractionText, rest]))
  · cases zoneForm : t.zone with
    | utc letter named =>
      simp only [zoneForm, ZoneForm.chars, List.mem_singleton] at zone
      rcases named with rfl | rfl <;> rw [zone] <;> decide
    | offset west hours minutes _ _ =>
      simp only [zoneForm, ZoneForm.chars, List.mem_cons, List.mem_append] at zone
      rcases zone with sign | hour | rfl | minute
      · cases west <;> simp only [sign] <;> decide
      · exact padded hour
      · decide
      · exact padded minute

theorem TimestampForm.isDigit_of_mem_fraction_ofMoment (m : Moment) (inRange : m.inRange = true)
    (small : m.offset.natAbs < 1440) :
    ∀ c ∈ (TimestampForm.ofMoment m inRange small).fraction, c.isDigit = true :=
  fun _ mem => isDigit_of_mem_fractionOfMicros mem

theorem ZoneForm.chars_head (z : ZoneForm) : ∃ c rest, z.chars = c :: rest ∧
    c.isDigit = false ∧ (c == '.' || c == ',') = false := by
  cases z with
  | utc letter named =>
    refine ⟨letter, [], rfl, ?_⟩
    rcases named with rfl | rfl <;> decide
  | offset west hours minutes _ _ =>
    refine ⟨if west then '-' else '+', _, rfl, ?_⟩
    cases west <;> decide

namespace Stamp

theorem foldl_ascii (cs : List Char) (acc : Nat) :
    cs.foldl (fun n c => n * 10 + (c.toNat - 48)) acc = Nat.ofDigitChars 10 cs acc := by
  induction cs generalizing acc with
  | nil => rfl
  | cons c rest ih =>
    rw [List.foldl_cons, Nat.ofDigitChars_cons, ih, Nat.mul_comm]
    rfl

theorem asciiDigits?_eq_asciiValue? {cs : List Char} (nonempty : cs ≠ []) :
    asciiDigits? cs = asciiValue? cs := by
  unfold asciiDigits? asciiValue?
  by_cases digits : cs.all Char.isDigit = true
  · have each : ∀ c ∈ cs, c.isDigit = true := List.all_eq_true.mp digits
    simp [nonempty, digits, foldl_ascii, anyDigitsValue_eq_ofDigitChars each]
  · simp [digits]

theorem datePart?_text {d : Date} (valid : d.isValid = true) (inRange : d.inRange = true)
    (rest : List Char) : datePart? (d.text.toList ++ rest) = some (d, rest) := by
  obtain ⟨y1, y2, y3, y4, yearChars, dateChars⟩ := Date.text_toList_eq valid inRange
  have months := Date.bounds_of_isValid valid
  have years : 1 ≤ d.year ∧ d.year ≤ 9999 := by simpa [Date.inRange] using inRange
  have year : asciiDigits? [y1, y2, y3, y4] = some d.year.toNat := by
    rw [asciiDigits?_eq_asciiValue? (List.cons_ne_nil _ _), ← yearChars, asciiValue?_padded]
  have sameYear : ((d.year.toNat : Nat) : Int) = d.year := Int.toNat_of_nonneg (by omega)
  rw [dateChars]
  simp only [List.cons_append, List.nil_append, datePart?, year, bind, Option.bind_some,
    asciiPair?_padded (show d.month < 100 by omega), asciiPair?_padded (show d.day < 100 by omega),
    sameYear]
  rw [if_pos valid]

theorem fractionMicros_of_ascii {f : List Char} (nonempty : f ≠ [])
    (ascii : ∀ c ∈ f, c.isDigit = true) :
    fractionMicros f = anyDigitsValue (f.take 6) * Nat.pow 10 (6 - (f.take 6).length) := by
  have taken : f.take 6 ≠ [] := by
    obtain ⟨c, cs, rfl⟩ := List.exists_cons_of_ne_nil nonempty
    simp
  have read : asciiValue? (f.take 6) = some (anyDigitsValue (f.take 6)) :=
    (asciiValue?_eq_some_iff _ _).mpr ⟨fun c mem => ascii c (List.mem_of_mem_take mem), rfl⟩
  simp only [fractionMicros, asciiDigits?_eq_asciiValue? taken, read, Option.getD_some]

theorem secondsPart?_form (t : TimestampForm) (ascii : ∀ c ∈ t.fraction, c.isDigit = true) :
    secondsPart? (':' :: ((Moment.padded 2 t.second).toList ++
      (fractionChars t.fraction ++ t.zone.chars))) =
      some (t.second * 1000000 + t.micros, t.zone.chars) := by
  have second := t.clock.2.2
  obtain ⟨z, more, zoneChars, notDigit, notSeparator⟩ := t.zone.chars_head
  rw [padded_two (show t.second < 100 by omega)]
  simp only [List.cons_append, List.nil_append, secondsPart?, bind, Option.bind_some,
    asciiPair?_padded (show t.second < 100 by omega), show ¬59 < t.second by omega, if_false]
  -- without a fraction the zone follows the seconds at once
  cases fraction : t.fraction with
  | nil =>
    have noMicros : t.micros = 0 := by simp [TimestampForm.micros, fraction, anyDigitsValue]
    simp [fractionChars, zoneChars, notSeparator, noMicros]
  | cons d ds =>
    have digits : ∀ c ∈ d :: ds, c.isDigit = true := fraction ▸ ascii
    -- the digits run up to the zone, which starts with no digit
    have taken : (d :: (ds ++ z :: more)).takeWhile Char.isDigit = d :: ds := by
      rw [← List.cons_append, List.takeWhile_append_of_pos digits,
        List.takeWhile_cons_of_neg (by simp [notDigit]), List.append_nil]
    have dropped : (d :: (ds ++ z :: more)).drop (d :: ds).length = z :: more := by
      rw [← List.cons_append, List.drop_left]
    have micros : fractionMicros (d :: ds) = t.micros := by
      rw [fractionMicros_of_ascii (List.cons_ne_nil d ds) digits, TimestampForm.micros, fraction]
    simp only [fractionChars, zoneChars, List.cons_append, taken, dropped, micros,
      beq_self_eq_true, Bool.true_or, if_true, List.isEmpty_cons, Bool.false_eq_true, if_false]

theorem timePart?_form (t : TimestampForm) (ascii : ∀ c ∈ t.fraction, c.isDigit = true) :
    timePart? ((Moment.padded 2 t.hour).toList ++ ':' :: ((Moment.padded 2 t.minute).toList ++
      ':' :: ((Moment.padded 2 t.second).toList ++ (fractionChars t.fraction ++ t.zone.chars)))) =
      some (t.time, t.zone.chars) := by
  have clock := t.clock
  have time : (t.hour * 60 + t.minute) * 60000000 + (t.second * 1000000 + t.micros) =
      ((t.hour * 60 + t.minute) * 60 + t.second) * 1000000 + t.micros := by omega
  rw [padded_two (show t.hour < 100 by omega), padded_two (show t.minute < 100 by omega)]
  simp only [List.cons_append, List.nil_append, timePart?, bind, Option.bind_some,
    asciiPair?_padded (show t.hour < 100 by omega), asciiPair?_padded (show t.minute < 100 by omega),
    show ¬(23 < t.hour ∨ 59 < t.minute) by omega, if_false]
  rw [secondsPart?_form t ascii, Option.bind_some, TimestampForm.time, ← time]

/-- A written timestamp whose fraction is ASCII and whose zone reads as its offset reads back as
the stamp of its local date and time at that offset. -/
theorem ofDateTime?_chars (t : TimestampForm) (ascii : ∀ c ∈ t.fraction, c.isDigit = true)
    (zone : zonePart? t.zone.chars = some (some t.zone.minutes)) :
    ofDateTime? t.chars = some ⟨t.date.days * microsPerDay + t.time, some t.zone.minutes⟩ := by
  have separated : (t.separator == 'T' || t.separator == 't' || t.separator == ' ' ||
      t.separator == '_') = true := by
    rcases t.separated with same | same | same <;> simp [same]
  unfold ofDateTime?
  rw [TimestampForm.chars, datePart?_text t.valid t.inRange]
  simp only [bind, Option.bind_some, separated, if_true, timePart?_form t ascii, zone]

theorem zonePart?_ofOffset (offset : Int) (small : offset.natAbs < 1440) :
    zonePart? (ZoneForm.ofOffset offset small).chars = some (some offset) := by
  unfold ZoneForm.ofOffset
  by_cases zero : offset = 0
  · simp [zero, ZoneForm.chars, zonePart?]
  · have magnitude := Int.natAbs_eq offset
    rw [if_neg zero, ZoneForm.chars, padded_two (show offset.natAbs / 60 < 100 by omega),
      padded_two (show offset.natAbs % 60 < 100 by omega)]
    simp only [List.cons_append, List.nil_append, zonePart?, bind, Option.bind_some,
      asciiPair?_padded (show offset.natAbs / 60 < 100 by omega),
      asciiPair?_padded (show offset.natAbs % 60 < 100 by omega),
      show offset.natAbs / 60 < 24 ∧ offset.natAbs % 60 < 60 by omega, and_self, if_true]
    by_cases west : offset < 0
    · rw [if_pos (decide_eq_true west), show offsetSign? '-' = some (-1) from rfl, Option.bind_some,
        Option.some.injEq, Option.some.injEq]
      omega
    · rw [if_neg (by simpa using west), show offsetSign? '+' = some 1 from rfl, Option.bind_some,
        Option.some.injEq, Option.some.injEq]
      omega

/-- The text of a moment whose wall clock shows a date in the years 1 to 9999, at an offset under
a day, reads back as the moment's stamp. -/
theorem ofText?_render (m : Moment) (inRange : m.inRange = true)
    (small : m.offset.natAbs < 1440) : ofText? m.render = some (ofMoment m) := by
  have ascii := TimestampForm.isDigit_of_mem_fraction_ofMoment m inRange small
  have minutes := ZoneForm.minutes_ofOffset m.offset small
  have zone : zonePart? (TimestampForm.ofMoment m inRange small).zone.chars =
      some (some (TimestampForm.ofMoment m inRange small).zone.minutes) := by
    rw [show (TimestampForm.ofMoment m inRange small).zone = ZoneForm.ofOffset m.offset small from
      rfl, minutes]
    exact zonePart?_ofOffset m.offset small
  -- the wall clock is the instant the text names, moved by the offset
  have wall : (TimestampForm.ofMoment m inRange small).date.days * microsPerDay +
      (TimestampForm.ofMoment m inRange small).time = m.wallMicros := by
    have instant := congrArg Moment.micros (TimestampForm.instant_ofMoment m inRange small)
    have offset : (TimestampForm.ofMoment m inRange small).zone.minutes = m.offset := minutes
    simp only [TimestampForm.instant, Moment.toUtc, offset] at instant
    unfold Moment.wallMicros
    omega
  unfold ofText?
  dsimp only
  rw [← TimestampForm.chars_ofMoment m inRange small, ofDateTime?_chars _ ascii zone, wall,
    show (TimestampForm.ofMoment m inRange small).zone.minutes = m.offset from minutes]
  rfl

theorem isKept_ofMoment (m : Moment) (inRange : m.inRange = true) : (ofMoment m).isKept = true := by
  have year : 1 ≤ m.date.year := by
    simp only [Moment.inRange, Date.inRange, Bool.and_eq_true, decide_eq_true_eq] at inRange
    exact inRange.1
  have first := Date.firstDay_le_days (Date.isValid_ofDays _) year
  rw [Date.days_ofDays] at first
  simp only [isKept, ofMoment, firstSecond, microsPerSecond]
  unfold microsPerDay microsPerSecond at first
  exact decide_eq_true (by omega)

end Stamp

end Cinema.Calendar

namespace Cinema.Request

open Cinema.Calendar Cinema.Json

theorem laxStamp_render (m : Moment) (inRange : m.inRange = true)
    (small : m.offset.natAbs < 1440) : laxStamp (.str m.render) = .ok (Stamp.ofMoment m) := by
  have ascii := TimestampForm.isDigit_of_mem_fraction_ofMoment m inRange small
  have plain : ∀ c ∈ m.render.toList, c ≠ Text.Wide.mark := by
    intro c mem same
    rw [← TimestampForm.chars_ofMoment m inRange small] at mem
    have below := TimestampForm.ascii_of_mem_chars _ ascii mem
    rw [same] at below
    exact absurd below (by decide)
  have readable : readableText m.render = .ok m.render := by
    simp [readableText, Text.Wide.codes_of_no_mark plain, Text.Wide.isHalf_toNat]
  simp only [laxStamp, readable, Checked.andThen, Stamp.ofText?_render m inRange small, keptStamp,
    Stamp.isKept_ofMoment m inRange, if_true]

end Cinema.Request

namespace Cinema.Reviews

open Cinema.Calendar Cinema.Json Cinema.Request

/-- The out-parameter row `(rating, review, created_at, updated_at, found)` through which the store
hands back a stored review, its times written as their text. -/
def Row.cells (row : Row) : Value :=
  .arr [.int row.rating, .str row.text, .str row.createdAt.render, .str row.updatedAt.render,
    .bool true]

/-- A rating cell is read as its integer, a zero rating counting as the missing one it stands
for. -/
theorem laxInt_cellOr (n : Int) : laxInt (cellOr (.int n) (.int 0)) = .ok n := by
  by_cases zero : n = 0 <;> simp [cellOr, Value.truthy, zero, laxInt]

theorem strictText_cellOr (s : String) : strictText (cellOr (.str s) (.str "")) = .ok s := by
  by_cases empty : s = "" <;> simp [cellOr, Value.truthy, empty, strictText]

/-- The row of a stored review whose times show dates in the years 1 to 9999, at offsets under a
day, reads as the review the repository makes of the stored row. -/
theorem Review.ofRow_cells (row : Row) (created : row.createdAt.inRange = true)
    (updated : row.updatedAt.inRange = true) (createdOffset : row.createdAt.offset.natAbs < 1440)
    (updatedOffset : row.updatedAt.offset.natAbs < 1440) :
    Review.ofRow row.cells = .ok (some (Review.ofStored row)) := by
  have found : foundFlag row.cells = .ok true := by simp [foundFlag, Row.cells, Value.truthy]
  have cells : Review.ofCells (.int row.rating) (.str row.text) (.str row.createdAt.render)
      (.str row.updatedAt.render) = .ok (Review.ofStored row) := by
    simp only [Review.ofCells, laxInt_cellOr, strictText_cellOr, Request.optional,
      laxStamp_render _ created createdOffset, laxStamp_render _ updated updatedOffset]
    rfl
  unfold Review.ofRow
  rw [found]
  simp only [Row.cells, cells]

end Cinema.Reviews
