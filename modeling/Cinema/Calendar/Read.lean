import Cinema.Calendar.Moment
import Cinema.Text.Blank
import Cinema.Text.Digit
import Cinema.Fault

/-!
# Reading dates and timestamps from provider text

Two forms arrive from the provider.

* A release date `YYYY-MM-DD`, read as midnight UTC. Every place must hold a decimal digit of some
  script; the year may be written in any script, while the month (`01` to `12`) and the day
  (`01` to `31`, the second digit of `1x` and `2x` in any script) are ASCII otherwise.
* A timestamp `DATE SEP TIME [.FRAC] TZ` after trimming blanks, with `SEP` one of `T`, `t` and
  space, `TIME` as `HH:MM:SS`, and `TZ` one of `Z`, `z` and `±HH:MM`. Date, time, offset and the
  first six fraction digits must be ASCII; later fraction digits may be of any script and are
  dropped. The offset `HH * 60 + MM` minutes (minutes may exceed 59) must stay under a day. The
  result is the moment in UTC; one outside the years 1 to 9999 is a fault, not an absence.

Anything else, or a date that does not exist, reads as nothing.
-/

namespace Cinema.Calendar

open Cinema.Text

def asciiPair? (a b : Char) : Option Nat :=
  if a.isDigit ∧ b.isDigit then some ((a.toNat - 48) * 10 + (b.toNat - 48)) else none

/-- The month of a release date: `01` to `09` or `10` to `12`, in ASCII. -/
def releaseMonth? (a b : Char) : Option Nat :=
  if (a == '1' && '0' ≤ b && b ≤ '2') || (a == '0' && '1' ≤ b && b ≤ '9') then asciiPair? a b
  else none

/-- The day of a release date: `30`, `31`, `01` to `09` in ASCII, or an ASCII `1` or `2` followed
by a digit of any script. -/
def releaseDay? (a b : Char) : Option Nat :=
  if (a == '3' && (b == '0' || b == '1')) || (a == '0' && '1' ≤ b && b ≤ '9') then asciiPair? a b
  else if a == '1' || a == '2' then (digitValue? b).map fun v => (a.toNat - 48) * 10 + v
  else none

/-- Reads a release date as midnight UTC. -/
def readDate (s : String) : Option Moment :=
  match s.toList with
  | [y1, y2, y3, y4, '-', m1, m2, '-', d1, d2] =>
    if [y1, y2, y3, y4, m1, m2, d1, d2].all isAnyDigit then do
      let month ← releaseMonth? m1 m2
      let day ← releaseDay? d1 d2
      let date : Date := ⟨anyDigitsValue [y1, y2, y3, y4], month, day⟩
      if date.isValid ∧ 1 ≤ date.year then some (Moment.ofLocal date 0 0) else none
    else none
  | _ => none

/-- The parts of a timestamp in the shape of `DATE SEP TIME [.FRAC] TZ`, before any check of
their values: the fourteen digits of date and time, the fraction digits, and the zone. -/
structure TimestampText where
  year : List Char
  month : List Char
  day : List Char
  hour : List Char
  minute : List Char
  second : List Char
  fraction : List Char
  /-- `none` for `Z`; else the sign (`true` for minus) and the four offset digits. -/
  zone : Option (Bool × List Char × List Char)

def splitTail (cs : List Char) : Option (List Char × Option (Bool × List Char × List Char)) :=
  let (frac, rest) := match cs with
    | '.' :: r => (r.takeWhile isAnyDigit, r.dropWhile isAnyDigit)
    | r => ([], r)
  if cs.head? == some '.' ∧ frac.isEmpty then none
  else match rest with
    | ['Z'] | ['z'] => some (frac, none)
    | [s, h1, h2, ':', m1, m2] =>
      if (s == '+' || s == '-') && [h1, h2, m1, m2].all isAnyDigit then
        some (frac, some (s == '-', [h1, h2], [m1, m2]))
      else none
    | _ => none

def TimestampText.parse? (s : String) : Option TimestampText :=
  match trimList s.toList with
  | y1 :: y2 :: y3 :: y4 :: '-' :: mo1 :: mo2 :: '-' :: d1 :: d2 :: sep ::
      h1 :: h2 :: ':' :: mi1 :: mi2 :: ':' :: s1 :: s2 :: tail =>
    if (sep == 'T' || sep == 't' || sep == ' ') &&
        [y1, y2, y3, y4, mo1, mo2, d1, d2, h1, h2, mi1, mi2, s1, s2].all isAnyDigit then
      (splitTail tail).map fun (frac, zone) =>
        ⟨[y1, y2, y3, y4], [mo1, mo2], [d1, d2], [h1, h2], [mi1, mi2], [s1, s2], frac, zone⟩
    else none
  | _ => none

def asciiValue? (cs : List Char) : Option Nat :=
  if cs.all Char.isDigit then some (anyDigitsValue cs) else none

/-- The microseconds of a fraction: its first six digits, padded with zeros on the right. -/
def fractionMicros? (frac : List Char) : Option Nat :=
  let six := frac.take 6
  asciiValue? (six ++ List.replicate (6 - six.length) '0')

/-- The moment a timestamp names, at its own offset; nothing when a part is out of range. -/
def TimestampText.moment? (t : TimestampText) : Option Moment := do
  let year ← asciiValue? t.year
  let month ← asciiValue? t.month
  let day ← asciiValue? t.day
  let hour ← asciiValue? t.hour
  let minute ← asciiValue? t.minute
  let second ← asciiValue? t.second
  let micros ← fractionMicros? t.fraction
  let offset ← match t.zone with
    | none => some (0 : Int)
    | some (neg, hh, mm) => do
      let h ← asciiValue? hh
      let m ← asciiValue? mm
      let total := h * 60 + m
      if total < 1440 then some (if neg then -(total : Int) else total) else none
  let date : Date := ⟨year, month, day⟩
  if date.isValid ∧ 1 ≤ year ∧ hour ≤ 23 ∧ minute ≤ 59 ∧ second ≤ 59 then
    some (Moment.ofLocal date (((hour * 60 + minute) * 60 + second) * 1000000 + micros) offset)
  else none

def readTimestamp (s : String) : Except Fault (Option Moment) :=
  match (TimestampText.parse? s).bind TimestampText.moment? with
  | none => .ok none
  | some m => if m.toUtc.inRange then .ok (some m.toUtc) else .error .dateOutOfRange

end Cinema.Calendar
