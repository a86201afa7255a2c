import Cinema.Proofs.Calendar.Written

/-!
# The written form of a timestamp

A provider timestamp is written `DATE SEP TIME [.FRAC] TZ`: a date `YYYY-MM-DD`, one of `T`, `t`
and a space, the time `HH:MM:SS`, a point and one or more digits when there is a fraction, and
the zone, `Z`, `z` or `±HH:MM`. A `TimestampForm` holds the parts of such a text with what makes
it name an instant: a date that exists in the years 1 to 9999, a time of day, a fraction whose
first six digits are ASCII (later ones may be decimal digits of any script), and an offset under
a day, whose minutes may pass 59. `TimestampForm.chars` writes it, and `TimestampForm.instant` is
the instant it names: the local date and time less the offset, with the first six digits of the
fraction as microseconds.

Reading the written form gives its instant, or the range fault when that instant lies outside the
years 1 to 9999 in UTC (`readTimestamp_of_trimList_eq_chars`).
-/

set_option autoImplicit false
set_option relaxedAutoImplicit false

namespace Cinema.Text

theorem dropWhile_of_head {p : Char → Bool} {cs : List Char}
    (first : ∀ c ∈ cs.head?, p c = false) :
    cs.dropWhile p = cs := by
  cases cs with
  | nil => rfl
  | cons c rest => exact List.dropWhile_cons_of_neg (by simp [first c rfl])

theorem trimList_of_ends {cs : List Char} (first : ∀ c ∈ cs.head?, isBlank c = false)
    (last : ∀ c ∈ cs.getLast?, isBlank c = false) : trimList cs = cs := by
  have lastFirst : ∀ c ∈ cs.reverse.head?, isBlank c = false := by
    rw [List.head?_reverse]
    exact last
  rw [trimList, dropWhile_of_head first, dropWhile_of_head lastFirst, List.reverse_reverse]

end Cinema.Text

namespace Cinema.Calendar

open Cinema.Text

/-- The zone of a timestamp: the letter `Z` or `z` for UTC, or an offset under a day west (`-`)
or east (`+`) of UTC, in hours and minutes of two digits each. -/
inductive ZoneForm
  | utc (letter : Char) (named : letter = 'Z' ∨ letter = 'z')
  | offset (west : Bool) (hours minutes : Nat) (twoDigits : hours < 100 ∧ minutes < 100)
      (underDay : hours * 60 + minutes < 1440)

namespace ZoneForm

def chars : ZoneForm → List Char
  | utc letter _ => [letter]
  | offset west hours minutes _ _ =>
    (if west then '-' else '+') ::
      ((Moment.padded 2 hours).toList ++ ':' :: (Moment.padded 2 minutes).toList)

def minutes : ZoneForm → Int
  | utc _ _ => 0
  | offset west hours minutes _ _ =>
    if west then -((hours * 60 + minutes : Nat) : Int) else ((hours * 60 + minutes : Nat) : Int)

/-- The zone as the shape of a timestamp holds it: nothing for a letter, else the sign and the
digits of the hours and the minutes. -/
def parts : ZoneForm → Option (Bool × List Char × List Char)
  | utc _ _ => none
  | offset west hours minutes _ _ =>
    some (west, (Moment.padded 2 hours).toList, (Moment.padded 2 minutes).toList)

end ZoneForm

def fractionChars : List Char → List Char
  | [] => []
  | c :: cs => '.' :: c :: cs

/-- A timestamp as written, with the conditions under which it names an instant. -/
structure TimestampForm where
  date : Date
  separator : Char
  hour : Nat
  minute : Nat
  second : Nat
  /-- The digits after the point; none when there is no point. -/
  fraction : List Char
  zone : ZoneForm
  valid : date.isValid = true
  inRange : date.inRange = true
  separated : separator = 'T' ∨ separator = 't' ∨ separator = ' '
  clock : hour ≤ 23 ∧ minute ≤ 59 ∧ second ≤ 59
  digits : ∀ c ∈ fraction, isAnyDigit c = true
  asciiFirst : ∀ c ∈ fraction.take 6, c.isDigit = true

namespace TimestampForm

def chars (t : TimestampForm) : List Char :=
  t.date.text.toList ++ t.separator :: ((Moment.padded 2 t.hour).toList ++ ':' ::
    ((Moment.padded 2 t.minute).toList ++ ':' :: ((Moment.padded 2 t.second).toList ++
      (fractionChars t.fraction ++ t.zone.chars))))

/-- The microseconds of the fraction: its first six digits, as if zeros followed them; the
digits after the sixth are dropped, never rounded. -/
def micros (t : TimestampForm) : Nat :=
  anyDigitsValue (t.fraction.take 6) * Nat.pow 10 (6 - (t.fraction.take 6).length)

def time (t : TimestampForm) : Nat :=
  ((t.hour * 60 + t.minute) * 60 + t.second) * 1000000 + t.micros

/-- The instant the timestamp names, in UTC: the local date and time less the offset. -/
def instant (t : TimestampForm) : Moment :=
  ⟨t.date.days * microsPerDay + t.time - t.zone.minutes * microsPerMinute, 0⟩

def parts (t : TimestampForm) : TimestampText :=
  ⟨(Moment.padded 4 t.date.year.toNat).toList, (Moment.padded 2 t.date.month).toList,
    (Moment.padded 2 t.date.day).toList, (Moment.padded 2 t.hour).toList,
    (Moment.padded 2 t.minute).toList, (Moment.padded 2 t.second).toList, t.fraction, t.zone.parts⟩

end TimestampForm

/-! ## The zone and the fraction -/

namespace ZoneForm

theorem chars_eq_cons (z : ZoneForm) : ∃ c rest, z.chars = c :: rest ∧
    isAnyDigit c = false ∧ c ≠ '.' ∧ isBlank c = false := by
  cases z with
  | utc letter named =>
    refine ⟨letter, [], rfl, ?_⟩
    rcases named with rfl | rfl <;> decide
  | offset west hours minutes _ _ =>
    refine ⟨if west then '-' else '+', _, rfl, ?_⟩
    cases west <;> decide

theorem chars_getLast (z : ZoneForm) : ∀ c ∈ z.chars.getLast?, isBlank c = false := by
  intro c last
  cases z with
  | utc letter named =>
    have same : c = letter := by simpa [chars] using last.symm
    subst same
    rcases named with rfl | rfl <;> decide
  | offset west hours minutes twoDigits _ =>
    rw [chars, padded_two twoDigits.1, padded_two twoDigits.2] at last
    have same : c = Nat.digitChar (minutes % 10) := by simpa using last.symm
    exact same ▸ Catalog.Text.isBlank_of_isDigit (isDigit_digitChar_div_mod twoDigits.2).2

end ZoneForm

theorem takeWhile_fraction {f rest : List Char} (digits : ∀ c ∈ f, isAnyDigit c = true)
    (first : ∀ c ∈ rest.head?, isAnyDigit c = false) :
    (f ++ rest).takeWhile isAnyDigit = f ∧ (f ++ rest).dropWhile isAnyDigit = rest := by
  rw [List.takeWhile_append_of_pos digits, List.dropWhile_append_of_pos digits]
  cases rest with
  | nil => simp
  | cons c rest =>
    have notDigit := first c rfl
    rw [List.takeWhile_cons_of_neg (by simp [notDigit]),
      List.dropWhile_cons_of_neg (by simp [notDigit]), List.append_nil]
    exact ⟨rfl, rfl⟩

theorem splitTail_letter {f : List Char} (digits : ∀ c ∈ f, isAnyDigit c = true) {letter : Char}
    (named : letter = 'Z' ∨ letter = 'z') :
    splitTail (fractionChars f ++ [letter]) = some (f, none) := by
  have first : ∀ c ∈ [letter].head?, isAnyDigit c = false := by
    intro c mem
    rw [List.head?_cons, Option.mem_some_iff] at mem
    subst mem
    rcases named with rfl | rfl <;> decide
  obtain ⟨taken, dropped⟩ := takeWhile_fraction digits first
  cases f with
  | nil => rcases named with rfl | rfl <;> rfl
  | cons c cs =>
    simp only [List.cons_append] at taken dropped
    rcases named with rfl | rfl <;> simp [splitTail, fractionChars, taken, dropped]

theorem splitTail_offset {f : List Char} (digits : ∀ c ∈ f, isAnyDigit c = true) (sign : Char)
    (signed : sign = '+' ∨ sign = '-') (h1 h2 m1 m2 : Char)
    (offsetDigits : [h1, h2, m1, m2].all isAnyDigit = true) :
    splitTail (fractionChars f ++ [sign, h1, h2, ':', m1, m2]) =
      some (f, some (sign == '-', [h1, h2], [m1, m2])) := by
  have first : ∀ c ∈ [sign, h1, h2, ':', m1, m2].head?, isAnyDigit c = false := by
    intro c mem
    rw [List.head?_cons, Option.mem_some_iff] at mem
    subst mem
    rcases signed with rfl | rfl <;> decide
  obtain ⟨taken, dropped⟩ := takeWhile_fraction digits first
  simp only [List.all_cons, List.all_nil, Bool.and_true, Bool.and_eq_true] at offsetDigits
  cases f with
  | nil => rcases signed with rfl | rfl <;> simp [splitTail, fractionChars, offsetDigits]
  | cons c cs =>
    simp only [List.cons_append] at taken dropped
    rcases signed with rfl | rfl <;> simp [splitTail, fractionChars, taken, dropped, offsetDigits]

theorem ZoneForm.splitTail_chars (z : ZoneForm) {fraction : List Char}
    (digits : ∀ c ∈ fraction, isAnyDigit c = true) :
    splitTail (fractionChars fraction ++ z.chars) = some (fraction, z.parts) := by
  cases z with
  | utc letter named => exact splitTail_letter digits named
  | offset west hours minutes twoDigits _ =>
    have hoursDigits := isDigit_digitChar_div_mod twoDigits.1
    have minutesDigits := isDigit_digitChar_div_mod twoDigits.2
    rw [chars, parts, padded_two twoDigits.1, padded_two twoDigits.2]
    have split := splitTail_offset digits (if west then '-' else '+') (by cases west <;> simp)
      (Nat.digitChar (hours / 10)) (Nat.digitChar (hours % 10)) (Nat.digitChar (minutes / 10))
      (Nat.digitChar (minutes % 10))
      (by simp [Catalog.Text.isAnyDigit_of_isDigit, hoursDigits, minutesDigits])
    cases west <;> exact split

theorem fractionMicros?_form (t : TimestampForm) : fractionMicros? t.fraction = some t.micros := by
  rw [fractionMicros?, asciiValue?_eq_some_iff]
  have zeros : ∀ c ∈ List.replicate (6 - (t.fraction.take 6).length) '0', c.isDigit = true := by
    intro c mem
    rw [List.eq_of_mem_replicate mem]
    rfl
  exact ⟨List.forall_mem_append.mpr ⟨t.asciiFirst, zeros⟩,
    anyDigitsValue_append_zeros t.asciiFirst _⟩

/-! ## Reading the written form -/

namespace TimestampForm

/-- A written timestamp starts with a digit and ends with its zone: trimming keeps it whole. -/
theorem trimList_chars (t : TimestampForm) : trimList t.chars = t.chars := by
  obtain ⟨y1, y2, y3, y4, yearChars, dateChars⟩ := Date.text_toList_eq t.valid t.inRange
  obtain ⟨z, rest, zoneChars, -⟩ := t.zone.chars_eq_cons
  apply trimList_of_ends
  · intro c first
    rw [chars, dateChars, List.cons_append, List.head?_cons, Option.mem_some_iff] at first
    subst first
    exact Catalog.Text.isBlank_of_isDigit
      (isDigit_of_mem_padded (w := 4) (n := t.date.year.toNat) (by simp [yearChars]))
  · intro c last
    have zoneLast : t.chars = (t.date.text.toList ++ t.separator ::
        ((Moment.padded 2 t.hour).toList ++ ':' :: ((Moment.padded 2 t.minute).toList ++ ':' ::
          ((Moment.padded 2 t.second).toList ++ fractionChars t.fraction)))) ++ t.zone.chars := by
      simp [chars]
    rw [zoneLast, List.getLast?_append, zoneChars, List.getLast?_cons, Option.some_or,
      ← List.getLast?_cons, ← zoneChars] at last
    exact t.zone.chars_getLast c last

theorem parse?_chars (t : TimestampForm) {s : String} (trimmed : trimList s.toList = t.chars) :
    TimestampText.parse? s = some t.parts := by
  obtain ⟨y1, y2, y3, y4, yearChars, dateChars⟩ := Date.text_toList_eq t.valid t.inRange
  have months := Date.bounds_of_isValid t.valid
  have clock := t.clock
  have yearDigits : ∀ c ∈ [y1, y2, y3, y4], c.isDigit = true := fun c mem =>
    isDigit_of_mem_padded (yearChars ▸ mem)
  simp only [List.mem_cons, List.not_mem_nil, or_false, forall_eq_or_imp, forall_eq]
    at yearDigits
  have monthDigits := isDigit_digitChar_div_mod (show t.date.month < 100 by omega)
  have dayDigits := isDigit_digitChar_div_mod (show t.date.day < 100 by omega)
  have hourDigits := isDigit_digitChar_div_mod (show t.hour < 100 by omega)
  have minuteDigits := isDigit_digitChar_div_mod (show t.minute < 100 by omega)
  have secondDigits := isDigit_digitChar_div_mod (show t.second < 100 by omega)
  have separated : (t.separator == 'T' || t.separator == 't' || t.separator == ' ') = true := by
    rcases t.separated with same | same | same <;> simp [same]
  unfold TimestampText.parse?
  rw [trimmed, chars, dateChars, padded_two (show t.hour < 100 by omega),
    padded_two (show t.minute < 100 by omega),
    padded_two (show t.second < 100 by omega)]
  simp only [List.cons_append, List.nil_append, separated, List.all_cons,
    List.all_nil, Catalog.Text.isAnyDigit_of_isDigit, yearDigits, monthDigits, dayDigits,
    hourDigits, minuteDigits, secondDigits, Bool.and_true, if_true,
    t.zone.splitTail_chars t.digits, Option.map_some]
  rw [parts, yearChars, padded_two (show t.date.month < 100 by omega),
    padded_two (show t.date.day < 100 by omega), padded_two (show t.hour < 100 by omega),
    padded_two (show t.minute < 100 by omega),
    padded_two (show t.second < 100 by omega)]

theorem moment?_parts (t : TimestampForm) :
    t.parts.moment? = some (Moment.ofLocal t.date t.time t.zone.minutes) := by
  have inRange := t.inRange
  simp only [Date.inRange, Bool.and_eq_true, decide_eq_true_eq] at inRange
  have year : ((t.date.year.toNat : Nat) : Int) = t.date.year := Int.toNat_of_nonneg (by omega)
  have accepted : (Date.mk t.date.year t.date.month t.date.day).isValid = true ∧
      1 ≤ t.date.year.toNat ∧ t.hour ≤ 23 ∧ t.minute ≤ 59 ∧ t.second ≤ 59 :=
    ⟨t.valid, by omega, t.clock⟩
  unfold TimestampText.moment?
  simp only [parts, asciiValue?_padded, fractionMicros?_form, bind, Option.bind_some, year]
  cases zone : t.zone with
  | utc letter named =>
    simp only [ZoneForm.parts, ZoneForm.minutes]
    rw [if_pos accepted]
    rfl
  | offset west hours minutes twoDigits underDay =>
    simp only [ZoneForm.parts, ZoneForm.minutes, asciiValue?_padded, Option.bind_some]
    rw [if_pos underDay, if_pos accepted]
    rfl

/-- Reading a written timestamp gives the instant it names, or the range fault when that
instant lies outside the years 1 to 9999 in UTC. -/
theorem readTimestamp_of_trimList_eq_chars (t : TimestampForm) {s : String}
    (trimmed : trimList s.toList = t.chars) :
    readTimestamp s =
      if t.instant.inRange then .ok (some t.instant) else .error .dateOutOfRange := by
  unfold readTimestamp
  rw [parse?_chars t trimmed, Option.bind_some, moment?_parts]
  rfl

end TimestampForm

end Cinema.Calendar
