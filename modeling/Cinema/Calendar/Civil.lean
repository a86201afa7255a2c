/-!
# Civil dates

Dates of the proleptic Gregorian calendar: a year is a leap year when divisible by 4 but not
by 100, or by 400. Each date has a day number, counted from 1970-01-01, and every integer is the
day number of exactly one date; `Date.ofDays` and `Date.days` convert between them with the
usual era arithmetic (eras of 400 years, 146097 days, starting on March 1).
-/

namespace Cinema.Calendar

/-- A date by year, month (1 to 12) and day of month. -/
structure Date where
  year : Int
  month : Nat
  day : Nat
  deriving DecidableEq, Repr

def isLeap (y : Int) : Bool := (y % 4 == 0 && y % 100 != 0) || y % 400 == 0

def monthLength (y : Int) (m : Nat) : Nat :=
  match m with
  | 1 | 3 | 5 | 7 | 8 | 10 | 12 => 31
  | 4 | 6 | 9 | 11 => 30
  | 2 => if isLeap y then 29 else 28
  | _ => 0

def Date.isValid (d : Date) : Bool := 1 ≤ d.month && d.month ≤ 12 && 1 ≤ d.day && d.day ≤ monthLength d.year d.month

/-- The years a date may have to be shown and stored: 1 to 9999. -/
def Date.inRange (d : Date) : Bool := 1 ≤ d.year && d.year ≤ 9999

/-- The day number of a date, 1970-01-01 being day 0. -/
def Date.days (d : Date) : Int :=
  let y : Int := if d.month ≤ 2 then d.year - 1 else d.year
  let era := y / 400
  let yoe := y - era * 400
  let m : Int := d.month
  let doy := (153 * (if m > 2 then m - 3 else m + 9) + 2) / 5 + (d.day : Int) - 1
  let doe := yoe * 365 + yoe / 4 - yoe / 100 + doy
  era * 146097 + doe - 719468

def Date.ofDays (z : Int) : Date :=
  let z := z + 719468
  let era := z / 146097
  let doe := z - era * 146097
  let yoe := (doe - doe / 1460 + doe / 36524 - doe / 146096) / 365
  let y := yoe + era * 400
  let doy := doe - (365 * yoe + yoe / 4 - yoe / 100)
  let mp := (5 * doy + 2) / 153
  let d := doy - (153 * mp + 2) / 5 + 1
  let m := if mp < 10 then mp + 3 else mp - 9
  { year := if m ≤ 2 then y + 1 else y, month := m.toNat, day := d.toNat }

example : Date.days ⟨1970, 1, 1⟩ = 0 := by decide
example : Date.days ⟨2000, 3, 1⟩ = 11017 := by decide
example : Date.ofDays 11016 = ⟨2000, 2, 29⟩ := by decide
example : Date.days ⟨1, 1, 1⟩ = -719162 := by decide

end Cinema.Calendar
