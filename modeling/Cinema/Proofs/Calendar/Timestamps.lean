import Cinema.Proofs.Calendar.TimestampForm
import Cinema.Proofs.Calendar.Civil

/-!
# Timestamps read exactly their written forms

`readTimestamp` trims a provider text of blanks, splits it into the fields of `DATE SEP TIME
[.FRAC] TZ` and reads the fields. This module proves that it reads exactly the written forms of
`TimestampForm`: a text reads as a moment or a fault when, and only when, it is such a form once
trimmed (`exists_form_of_read` one way, `TimestampForm.readTimestamp_of_trimList_eq_chars` the
other). A form reads as the instant it names; when that instant lies outside the years 1 to 9999
in UTC it reads as the range fault instead, even though its own date lies in those years.

The text of a moment is a written form of the moment (`TimestampForm.ofMoment`), so the text of
every moment shown at an offset under a day reads back as that moment in UTC, when both the shown
date and the UTC date lie in the years 1 to 9999.

The main statement is `timestamps_read_as_their_written_forms`.
-/

set_option autoImplicit false
set_option relaxedAutoImplicit false

namespace Cinema.Calendar

open Cinema.Text

/-! ## Reading back -/

/-- What the splitter reads: the digits after a point, if there is one, then a zone that is a
letter, or a sign and two fields of two characters around a colon. -/
theorem splitTail_eq_some {tail frac : List Char} {zone : Option (Bool × List Char × List Char)}
    (split : splitTail tail = some (frac, zone)) :
    (∀ c ∈ frac, isAnyDigit c = true) ∧ ∃ rest, tail = fractionChars frac ++ rest ∧
      ((rest = ['Z'] ∨ rest = ['z']) ∧ zone = none ∨
        ∃ sign hh mm, (sign = '+' ∨ sign = '-') ∧ hh.length = 2 ∧ mm.length = 2 ∧
          rest = sign :: (hh ++ ':' :: mm) ∧ zone = some (sign == '-', hh, mm)) := by
  unfold splitTail at split
  split at split
  rename_i fraction rest parted
  split at split
  · cases split
  rename_i kept
  have zoneRead : frac = fraction ∧ ((rest = ['Z'] ∨ rest = ['z']) ∧ zone = none ∨
      ∃ sign hh mm, (sign = '+' ∨ sign = '-') ∧ hh.length = 2 ∧ mm.length = 2 ∧
        rest = sign :: (hh ++ ':' :: mm) ∧ zone = some (sign == '-', hh, mm)) := by
    split at split
    · cases split
      exact ⟨rfl, .inl ⟨.inl rfl, rfl⟩⟩
    · cases split
      exact ⟨rfl, .inl ⟨.inr rfl, rfl⟩⟩
    · rename_i sign h1 h2 m1 m2
      split at split
      · rename_i signed
        cases split
        simp only [Bool.and_eq_true, Bool.or_eq_true, beq_iff_eq] at signed
        exact ⟨rfl, .inr ⟨sign, [h1, h2], [m1, m2], signed.1, rfl, rfl, rfl, rfl⟩⟩
      · cases split
    · cases split
  obtain ⟨rfl, zoneRead⟩ := zoneRead
  split at parted
  · rename_i r
    obtain ⟨rfl, rfl⟩ := Prod.mk.inj parted
    refine ⟨List.all_eq_true.mp List.all_takeWhile, _, ?_, zoneRead⟩
    cases taken : r.takeWhile isAnyDigit with
    | nil =>
      rw [taken] at kept
      exact absurd ⟨rfl, rfl⟩ kept
    | cons c cs =>
      rw [fractionChars, ← taken, List.cons_append, List.takeWhile_append_dropWhile]
  · obtain ⟨rfl, rfl⟩ := Prod.mk.inj parted
    exact ⟨fun _ mem => (List.not_mem_nil mem).elim, _, rfl, zoneRead⟩

/-- What the reader splits: after trimming, the fields of the date and the time around their
separators, then a tail that the splitter reads. -/
theorem parse?_eq_some {s : String} {tt : TimestampText} (read : TimestampText.parse? s = some tt) :
    ∃ sep tail, trimList s.toList = tt.year ++ '-' :: (tt.month ++ '-' :: (tt.day ++ sep ::
        (tt.hour ++ ':' :: (tt.minute ++ ':' :: (tt.second ++ tail))))) ∧
      tt.year.length = 4 ∧ tt.month.length = 2 ∧ tt.day.length = 2 ∧ tt.hour.length = 2 ∧
      tt.minute.length = 2 ∧ tt.second.length = 2 ∧ (sep = 'T' ∨ sep = 't' ∨ sep = ' ') ∧
      splitTail tail = some (tt.fraction, tt.zone) := by
  unfold TimestampText.parse? at read
  split at read
  · rename_i y1 y2 y3 y4 mo1 mo2 d1 d2 sep h1 h2 mi1 mi2 s1 s2 tail trimmed
    split at read
    · rename_i accepted
      obtain ⟨⟨frac, zone⟩, split, rfl⟩ := Option.map_eq_some_iff.mp read
      simp only [Bool.and_eq_true, Bool.or_eq_true, beq_iff_eq] at accepted
      exact ⟨sep, tail, trimmed, rfl, rfl, rfl, rfl, rfl, rfl, or_assoc.mp accepted.1, split⟩
    · cases read
  · cases read

/-- What the fields of a timestamp make: each field read as ASCII digits, the offset from the
zone's own digits under a day, and a date that exists from the year 1 on with a time of day. -/
theorem moment?_eq_some {tt : TimestampText} {m : Moment} (read : tt.moment? = some m) :
    ∃ year month day hour minute second micros : Nat, ∃ offset : Int,
      asciiValue? tt.year = some year ∧ asciiValue? tt.month = some month ∧
      asciiValue? tt.day = some day ∧ asciiValue? tt.hour = some hour ∧
      asciiValue? tt.minute = some minute ∧ asciiValue? tt.second = some second ∧
      fractionMicros? tt.fraction = some micros ∧
      (tt.zone = none ∧ offset = 0 ∨ ∃ neg hh mm h mi, tt.zone = some (neg, hh, mm) ∧
        asciiValue? hh = some h ∧ asciiValue? mm = some mi ∧ h * 60 + mi < 1440 ∧
        offset = if neg then -((h * 60 + mi : Nat) : Int) else ((h * 60 + mi : Nat) : Int)) ∧
      (Date.mk year month day).isValid = true ∧ 1 ≤ year ∧ hour ≤ 23 ∧ minute ≤ 59 ∧
      second ≤ 59 ∧
      m = Moment.ofLocal ⟨year, month, day⟩ (((hour * 60 + minute) * 60 + second) * 1000000 + micros)
        offset := by
  unfold TimestampText.moment? at read
  obtain ⟨year, yearRead, read⟩ := Option.bind_eq_some_iff.mp read
  obtain ⟨month, monthRead, read⟩ := Option.bind_eq_some_iff.mp read
  obtain ⟨day, dayRead, read⟩ := Option.bind_eq_some_iff.mp read
  obtain ⟨hour, hourRead, read⟩ := Option.bind_eq_some_iff.mp read
  obtain ⟨minute, minuteRead, read⟩ := Option.bind_eq_some_iff.mp read
  obtain ⟨second, secondRead, read⟩ := Option.bind_eq_some_iff.mp read
  obtain ⟨micros, microsRead, built⟩ := Option.bind_eq_some_iff.mp read
  dsimp only at built
  split at built
  · rename_i utc
    obtain ⟨_, zero, built⟩ := Option.bind_eq_some_iff.mp built
    cases zero
    obtain ⟨accepted, made⟩ := Option.ite_none_right_eq_some.mp built
    exact ⟨year, month, day, hour, minute, second, micros, 0, yearRead, monthRead, dayRead,
      hourRead, minuteRead, secondRead, microsRead, .inl ⟨utc, rfl⟩, accepted.1, accepted.2.1,
      accepted.2.2.1, accepted.2.2.2.1, accepted.2.2.2.2, (Option.some.inj made).symm⟩
  · rename_i neg hh mm zone
    obtain ⟨h, hRead, built⟩ := Option.bind_eq_some_iff.mp built
    obtain ⟨mi, miRead, built⟩ := Option.bind_eq_some_iff.mp built
    split at built
    · rename_i underDay
      obtain ⟨_, signed, built⟩ := Option.bind_eq_some_iff.mp built
      cases signed
      obtain ⟨accepted, made⟩ := Option.ite_none_right_eq_some.mp built
      exact ⟨year, month, day, hour, minute, second, micros, _, yearRead, monthRead, dayRead,
        hourRead, minuteRead, secondRead, microsRead,
        .inr ⟨neg, hh, mm, h, mi, zone, hRead, miRead, underDay, rfl⟩, accepted.1, accepted.2.1,
        accepted.2.2.1, accepted.2.2.2.1, accepted.2.2.2.2, (Option.some.inj made).symm⟩
    · obtain ⟨_, noOffset, -⟩ := Option.bind_eq_some_iff.mp built
      cases noOffset

theorem ZoneForm.exists_of_read {rest : List Char} {zone : Option (Bool × List Char × List Char)}
    {offset : Int}
    (shape : (rest = ['Z'] ∨ rest = ['z']) ∧ zone = none ∨
      ∃ sign hh mm, (sign = '+' ∨ sign = '-') ∧ hh.length = 2 ∧ mm.length = 2 ∧
        rest = sign :: (hh ++ ':' :: mm) ∧ zone = some (sign == '-', hh, mm))
    (offsetRead : zone = none ∧ offset = 0 ∨ ∃ neg hh mm h mi, zone = some (neg, hh, mm) ∧
      asciiValue? hh = some h ∧ asciiValue? mm = some mi ∧ h * 60 + mi < 1440 ∧
      offset = if neg then -((h * 60 + mi : Nat) : Int) else ((h * 60 + mi : Nat) : Int)) :
    ∃ z : ZoneForm, rest = z.chars ∧ z.minutes = offset := by
  rcases shape with ⟨letter, rfl⟩ | ⟨sign, hh, mm, signed, hhLength, mmLength, rfl, rfl⟩
  · rcases offsetRead with ⟨-, rfl⟩ | ⟨_, _, _, _, _, noneIsSome, -⟩
    · rcases letter with rfl | rfl
      · exact ⟨.utc 'Z' (.inl rfl), rfl, rfl⟩
      · exact ⟨.utc 'z' (.inr rfl), rfl, rfl⟩
    · cases noneIsSome
  · rcases offsetRead with
      ⟨someIsNone, -⟩ | ⟨neg, hh', mm', h, mi, same, hRead, miRead, underDay, rfl⟩
    · cases someIsNone
    · obtain ⟨rfl, rfl, rfl⟩ : neg = (sign == '-') ∧ hh' = hh ∧ mm' = mm := by
        simpa [eq_comm] using same
      obtain ⟨hText, hSmall⟩ := padded_of_asciiValue? hRead hhLength (by decide)
      obtain ⟨miText, miSmall⟩ := padded_of_asciiValue? miRead mmLength (by decide)
      refine ⟨.offset (sign == '-') h mi ⟨hSmall, miSmall⟩ underDay, ?_, rfl⟩
      rw [ZoneForm.chars, hText, miText]
      rcases signed with rfl | rfl <;> rfl

theorem exists_form_of_read {s : String} {tt : TimestampText} {m : Moment}
    (split : TimestampText.parse? s = some tt) (read : tt.moment? = some m) :
    ∃ t : TimestampForm, trimList s.toList = t.chars := by
  obtain ⟨sep, tail, trimmed, yearLength, monthLength, dayLength, hourLength, minuteLength,
    secondLength, separated, tailSplit⟩ := parse?_eq_some split
  obtain ⟨year, month, day, hour, minute, second, micros, offset, yearRead, monthRead, dayRead,
    hourRead, minuteRead, secondRead, microsRead, offsetRead, valid, positive, hourLe, minuteLe,
    secondLe, -⟩ := moment?_eq_some read
  obtain ⟨digits, rest, tailChars, shape⟩ := splitTail_eq_some tailSplit
  obtain ⟨z, restChars, -⟩ := ZoneForm.exists_of_read shape offsetRead
  obtain ⟨yearText, yearSmall⟩ := padded_of_asciiValue? yearRead yearLength (by decide)
  obtain ⟨monthText, -⟩ := padded_of_asciiValue? monthRead monthLength (by decide)
  obtain ⟨dayText, -⟩ := padded_of_asciiValue? dayRead dayLength (by decide)
  obtain ⟨hourText, -⟩ := padded_of_asciiValue? hourRead hourLength (by decide)
  obtain ⟨minuteText, -⟩ := padded_of_asciiValue? minuteRead minuteLength (by decide)
  obtain ⟨secondText, -⟩ := padded_of_asciiValue? secondRead secondLength (by decide)
  have asciiFirst : ∀ c ∈ tt.fraction.take 6, c.isDigit = true := by
    rw [fractionMicros?, asciiValue?_eq_some_iff] at microsRead
    exact fun c mem => microsRead.1 c (List.mem_append_left _ mem)
  have inRange : (Date.mk year month day).inRange = true := by
    have below : year < 10000 := yearSmall
    simp only [Date.inRange, Bool.and_eq_true, decide_eq_true_eq]
    omega
  refine ⟨
    { date := ⟨year, month, day⟩, separator := sep, hour := hour, minute := minute,
      second := second, fraction := tt.fraction, zone := z, valid := valid, inRange := inRange,
      separated := separated, clock := ⟨hourLe, minuteLe, secondLe⟩, digits := digits,
      asciiFirst := asciiFirst }, ?_⟩
  rw [trimmed, tailChars, restChars, TimestampForm.chars, Date.text_toList]
  simp only [Int.toNat_natCast, yearText, monthText, dayText, hourText, minuteText, secondText,
    List.append_assoc, List.cons_append]

/-! ## The text of a moment -/

/-- The zone a moment's text writes for an offset under a day: `Z` at zero, else the sign and the
hours and minutes of the offset. -/
def ZoneForm.ofOffset (offset : Int) (small : offset.natAbs < 1440) : ZoneForm :=
  if offset = 0 then .utc 'Z' (.inl rfl)
  else .offset (decide (offset < 0)) (offset.natAbs / 60) (offset.natAbs % 60) ⟨by omega, by omega⟩
    (by omega)

theorem ZoneForm.chars_ofOffset (offset : Int) (small : offset.natAbs < 1440) :
    (ofOffset offset small).chars = (Moment.offsetText offset).toList := by
  unfold ofOffset Moment.offsetText
  by_cases zero : offset = 0
  · simp [zero, chars]
  · by_cases west : offset < 0 <;> simp [zero, west, chars]

theorem ZoneForm.minutes_ofOffset (offset : Int) (small : offset.natAbs < 1440) :
    (ofOffset offset small).minutes = offset := by
  unfold ofOffset
  by_cases zero : offset = 0
  · simp [zero, minutes]
  · have magnitude := Int.natAbs_eq offset
    by_cases west : offset < 0
    · simp only [zero, west, minutes, if_false, decide_true, if_true]
      omega
    · simp only [zero, west, minutes, if_false, decide_false, Bool.false_eq_true]
      omega

/-- The fraction digits a moment's text writes for its microseconds: none at zero, else six. -/
def fractionOfMicros (frac : Nat) : List Char :=
  if frac = 0 then [] else (Moment.padded 6 frac).toList

theorem isDigit_of_mem_fractionOfMicros {frac : Nat} {c : Char}
    (mem : c ∈ fractionOfMicros frac) : c.isDigit = true := by
  unfold fractionOfMicros at mem
  split at mem
  · cases mem
  · exact isDigit_of_mem_padded mem

theorem fractionChars_ofMicros {frac : Nat} (small : frac < 1000000) :
    fractionChars (fractionOfMicros frac) =
      (if frac = 0 then "" else "." ++ Moment.padded 6 frac).toList := by
  unfold fractionOfMicros
  by_cases zero : frac = 0
  · simp [zero, fractionChars]
  · have six := length_padded_of_lt (w := 6) (by decide) small
    have nonempty : (Moment.padded 6 frac).toList ≠ [] := List.ne_nil_of_length_pos (by omega)
    obtain ⟨c, cs, chars⟩ := List.exists_cons_of_ne_nil nonempty
    simp [zero, chars, fractionChars]

theorem micros_fractionOfMicros {frac : Nat} (small : frac < 1000000) :
    anyDigitsValue ((fractionOfMicros frac).take 6) *
      Nat.pow 10 (6 - ((fractionOfMicros frac).take 6).length) = frac := by
  unfold fractionOfMicros
  by_cases zero : frac = 0
  · simp [zero, anyDigitsValue]
  · have six := length_padded_of_lt (w := 6) (by decide) small
    rw [if_neg zero, List.take_of_length_le (by omega), six, anyDigitsValue_padded]
    exact Nat.mul_one frac

theorem Moment.timeOfDay_bounds (m : Moment) : 0 ≤ m.timeOfDay ∧ m.timeOfDay < 86400000000 := by
  unfold Moment.timeOfDay microsPerDay microsPerSecond
  omega

/-- The written form of a moment's text, for a moment whose wall clock shows a date in the years
1 to 9999 at an offset under a day. -/
def TimestampForm.ofMoment (m : Moment) (inRange : m.inRange = true)
    (small : m.offset.natAbs < 1440) : TimestampForm where
  date := m.date
  separator := 'T'
  hour := m.timeOfDay.toNat / 1000000 / 3600
  minute := m.timeOfDay.toNat / 1000000 / 60 % 60
  second := m.timeOfDay.toNat / 1000000 % 60
  fraction := fractionOfMicros (m.timeOfDay.toNat % 1000000)
  zone := ZoneForm.ofOffset m.offset small
  valid := Date.isValid_ofDays _
  inRange := inRange
  separated := .inl rfl
  clock := by
    have within := m.timeOfDay_bounds
    omega
  digits := fun _ mem => Catalog.Text.isAnyDigit_of_isDigit (isDigit_of_mem_fractionOfMicros mem)
  asciiFirst := fun _ mem => isDigit_of_mem_fractionOfMicros (List.mem_of_mem_take mem)

namespace TimestampForm

variable (m : Moment) (inRange : m.inRange = true) (small : m.offset.natAbs < 1440)

theorem chars_ofMoment : (ofMoment m inRange small).chars = m.render.toList := by
  have micros : (m.wallMicros % microsPerDay).toNat % 1000000 < 1000000 := Nat.mod_lt _ (by decide)
  simp only [chars, ofMoment, Moment.render, Moment.wallText, String.toList_append,
    Date.text_toList, ZoneForm.chars_ofOffset, fractionChars_ofMicros micros, Moment.date,
    Moment.timeOfDay]
  have dash : "-".toList = ['-'] := rfl
  have tee : "T".toList = ['T'] := rfl
  have colon : ":".toList = [':'] := rfl
  simp only [dash, tee, colon, List.append_assoc, List.cons_append,
    List.nil_append]

theorem instant_ofMoment : (ofMoment m inRange small).instant = m.toUtc := by
  have within := m.timeOfDay_bounds
  have fraction :=
    micros_fractionOfMicros (Nat.mod_lt m.timeOfDay.toNat (show 0 < 1000000 by decide))
  simp only [instant, time, TimestampForm.micros, ofMoment, fraction, Moment.date, Date.days_ofDays,
    ZoneForm.minutes_ofOffset, Moment.toUtc]
  unfold Moment.timeOfDay Moment.wallMicros microsPerDay microsPerMinute microsPerSecond at *
  congr 1
  omega

end TimestampForm

/-! ## The main statement -/

/-- Timestamps: a text reads as a moment or a fault exactly when, trimmed of blanks, it is a
written timestamp. A written timestamp reads as the instant it names, or as the range fault when
that instant lies outside the years 1 to 9999 in UTC. The text of a moment shown at an offset under
a day, at a date of those years, reads back as the moment in UTC when that lies in those years. -/
theorem timestamps_read_as_their_written_forms (s : String) :
    (readTimestamp s ≠ .ok none ↔ ∃ t : TimestampForm, trimList s.toList = t.chars) ∧
    (∀ t : TimestampForm, trimList s.toList = t.chars →
      readTimestamp s =
        if t.instant.inRange then .ok (some t.instant) else .error .dateOutOfRange) ∧
    (∀ m : Moment, s = m.render → m.inRange = true → m.toUtc.inRange = true →
      m.offset.natAbs < 1440 → readTimestamp s = .ok (some m.toUtc)) := by
  refine ⟨⟨fun read => ?_, fun ⟨t, trimmed⟩ => ?_⟩,
    fun t trimmed => TimestampForm.readTimestamp_of_trimList_eq_chars t trimmed,
    fun m rendered inRange utcInRange small => ?_⟩
  · -- a text that reads as anything was split, and its fields were read
    unfold readTimestamp at read
    cases parsed : (TimestampText.parse? s).bind TimestampText.moment? with
    | none =>
      rw [parsed] at read
      exact absurd rfl read
    | some m =>
      obtain ⟨tt, split, fields⟩ := Option.bind_eq_some_iff.mp parsed
      exact exists_form_of_read split fields
  · rw [TimestampForm.readTimestamp_of_trimList_eq_chars t trimmed]
    split
    · intro same
      cases same
    · intro same
      cases same
  · have trimmed : trimList s.toList = (TimestampForm.ofMoment m inRange small).chars := by
      rw [rendered, ← TimestampForm.chars_ofMoment m inRange small, TimestampForm.trimList_chars]
    rw [TimestampForm.readTimestamp_of_trimList_eq_chars _ trimmed,
      TimestampForm.instant_ofMoment, if_pos utcInRange]

/-- Midnight of the first day of the year 1, five hours east of UTC, is a written timestamp, but
the instant it names lies in the year 0 in UTC: it reads as the range fault. -/
theorem stamp_east_of_year_one_reads_as_range_fault :
    readTimestamp "0001-01-01T00:00:00+05:00" = .error .dateOutOfRange := by
  rfl

example : (readTimestamp "1999-12-31T23:30:00.1234567-01:00").map (Option.map Moment.render) =
    .ok (some "2000-01-01T00:30:00.123456Z") := by
  rfl
example : (readTimestamp " 2000-01-01t00:00:00+00:99\n").map (Option.map Moment.render) =
    .ok (some "1999-12-31T22:21:00Z") := by
  rfl
example : readTimestamp "2000-01-01T00:00:00.Z" = .ok none := by
  rfl

end Cinema.Calendar
