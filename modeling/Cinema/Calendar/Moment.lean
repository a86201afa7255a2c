import Cinema.Calendar.Civil

/-!
# Moments

A moment is a point in time with a microsecond count from 1970-01-01T00:00:00 UTC, shown at an
offset from UTC in whole minutes. Its text is the ISO 8601 form `YYYY-MM-DDTHH:MM:SS`, with
`.ffffff` when the microseconds are not zero, and `Z` at offset zero or else `±HH:MM`.
Only moments whose shown date lies in the years 1 to 9999 can be written.
-/

namespace Cinema.Calendar

def microsPerSecond : Int := 1000000

def microsPerMinute : Int := 60 * microsPerSecond

def microsPerDay : Int := 86400 * microsPerSecond

/-- A moment: microseconds since 1970-01-01T00:00:00 UTC, shown at `offset` minutes east of UTC. -/
structure Moment where
  micros : Int
  offset : Int := 0
  deriving DecidableEq, Repr

namespace Moment

/-- The moment whose wall clock at `offset` shows `date` and `time` microseconds after midnight. -/
def ofLocal (date : Date) (time : Int) (offset : Int) : Moment :=
  ⟨date.days * microsPerDay + time - offset * microsPerMinute, offset⟩

/-- The wall-clock reading at the moment's offset, in microseconds from 1970-01-01T00:00:00. -/
def wallMicros (m : Moment) : Int := m.micros + m.offset * microsPerMinute

def date (m : Moment) : Date := Date.ofDays (m.wallMicros / microsPerDay)

def timeOfDay (m : Moment) : Int := m.wallMicros % microsPerDay

def toUtc (m : Moment) : Moment := { m with offset := 0 }

def inRange (m : Moment) : Bool := m.date.inRange

/-- `n` in decimal, with zeros in front up to `width` digits. -/
def padded (width : Nat) (n : Nat) : String :=
  let ds := Nat.toDigits 10 n
  String.ofList (List.replicate (width - ds.length) '0' ++ ds)

def offsetText (offset : Int) : String :=
  if offset = 0 then "Z"
  else
    let sign := if offset < 0 then "-" else "+"
    let mag := offset.natAbs
    sign ++ padded 2 (mag / 60) ++ ":" ++ padded 2 (mag % 60)

/-- The ISO 8601 text of a wall-clock reading, in microseconds from 1970-01-01T00:00:00, without
an offset: `YYYY-MM-DDTHH:MM:SS`, then `.ffffff` when the microseconds are not zero. -/
def wallText (wall : Int) : String :=
  let d := Date.ofDays (wall / microsPerDay)
  let t := (wall % microsPerDay).toNat
  let secs := t / 1000000
  let frac := t % 1000000
  padded 4 d.year.toNat ++ "-" ++ padded 2 d.month ++ "-" ++ padded 2 d.day ++ "T" ++
    padded 2 (secs / 3600) ++ ":" ++ padded 2 (secs / 60 % 60) ++ ":" ++ padded 2 (secs % 60) ++
    (if frac = 0 then "" else "." ++ padded 6 frac)

def render (m : Moment) : String := wallText m.wallMicros ++ offsetText m.offset

example : render ⟨0, 0⟩ = "1970-01-01T00:00:00Z" := by decide
example : render ⟨1500000, 180⟩ = "1970-01-01T03:00:01.500000+03:00" := by decide

end Moment

end Cinema.Calendar
