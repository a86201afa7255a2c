import Cinema.Calendar.Read
import Cinema.Binary64.Parts
import Cinema.Binary64.Decimal

/-!
# Stamps: date and time as a record holds it

A *stamp* is a wall-clock reading with the offset from UTC it was written at, or with none; its
text is the ISO 8601 form of the reading, then `Z`, `±HH:MM` or nothing. A stamp is read from
text in one of three forms, tried in order: a date and time `YYYY-MM-DD SEP HH:MM[:SS[.F]] [TZ]`
in ASCII digits; a count of seconds since 1970-01-01T00:00:00 UTC (of milliseconds above 2·10¹⁰
in size), within the years 0 to 9999; and a bare date, read as its midnight with no offset. Every
form reads years from 0 on; a stamp is *kept* only from year 1 on.
-/

namespace Cinema.Calendar

/-- A wall-clock reading in microseconds from 1970-01-01T00:00:00, and the offset from UTC in
minutes when the reading has one. -/
structure Stamp where
  wall : Int
  offset : Option Int
  deriving DecidableEq, Repr

namespace Stamp

def ofMoment (m : Moment) : Stamp := ⟨m.wallMicros, some m.offset⟩

def render (s : Stamp) : String :=
  Moment.wallText s.wall ++ match s.offset with
    | some o => Moment.offsetText o
    | none => ""

example : render ⟨0, none⟩ = "1970-01-01T00:00:00" := by decide
example : render ⟨0, some 180⟩ = "1970-01-01T00:00:00+03:00" := by decide

/-- The first second a stamp may be read at: 0000-01-01T00:00:00 UTC. -/
def earliestSecond : Int := -62167219200

/-- The first second of the first year a stamp may be kept in: 0001-01-01T00:00:00 UTC. -/
def firstSecond : Int := -62135596800

/-- The last second a stamp may be read at: 9999-12-31T23:59:59 UTC. -/
def lastSecond : Int := 253402300799

/-- The largest size of a count that still counts seconds. -/
def secondsLimit : Int := 20000000000

/-- The UTC stamp `total` microseconds after 1970-01-01T00:00:00, when its second lies from
`earliestSecond` to `lastSecond`. -/
def ofMicros? (total : Int) : Option Stamp :=
  if total < earliestSecond * microsPerSecond ∨ (lastSecond + 1) * microsPerSecond ≤ total then none
  else some ⟨total, some 0⟩

def isKept (s : Stamp) : Bool := firstSecond * microsPerSecond ≤ s.wall

/-- The UTC stamp of a whole count of seconds since 1970-01-01T00:00:00, or of milliseconds when
the count is above `secondsLimit` in size. -/
def ofCount? (count : Int) : Option Stamp :=
  ofMicros? (if count.natAbs ≤ secondsLimit.natAbs then count * microsPerSecond else count * 1000)

/-- The UTC stamp of a count given as a double: seconds, or milliseconds when the double is above
`secondsLimit` in size. The count is cut to its floor and the rest rounded to whole microseconds,
halves away from zero, so a rest that rounds up to a whole unit carries into the count. -/
def ofDouble? (x : Float) : Option Stamp := do
  let floor := x.floor
  let whole ← Binary64.wholeValue? floor
  if 20000000000.0 < x.abs then
    let micros ← Binary64.wholeValue? ((x - floor) * 1000.0).round
    ofMicros? (whole * 1000 + micros)
  else
    let micros ← Binary64.wholeValue? ((x - floor) * 1000000.0).round
    ofMicros? (whole * microsPerSecond + micros)

def asciiDigits? (cs : List Char) : Option Nat :=
  if !cs.isEmpty ∧ cs.all Char.isDigit then some (cs.foldl (fun n c => n * 10 + (c.toNat - 48)) 0)
  else none

def datePart? : List Char → Option (Date × List Char)
  | y1 :: y2 :: y3 :: y4 :: '-' :: m1 :: m2 :: '-' :: d1 :: d2 :: rest => do
    let year ← asciiDigits? [y1, y2, y3, y4]
    let month ← asciiPair? m1 m2
    let day ← asciiPair? d1 d2
    let date : Date := ⟨year, month, day⟩
    if date.isValid then some (date, rest) else none
  | _ => none

def fractionMicros (ds : List Char) : Nat :=
  let six := ds.take 6
  (asciiDigits? six).getD 0 * Nat.pow 10 (6 - six.length)

/-- The seconds and fraction after `HH:MM`: none at all, or `:SS` with an optional fraction;
their microseconds and the rest. -/
def secondsPart? : List Char → Option (Nat × List Char)
  | ':' :: s1 :: s2 :: rest => do
    let second ← asciiPair? s1 s2
    if 59 < second then none
    else match rest with
      | sep :: more =>
        if sep == '.' || sep == ',' then
          let ds := more.takeWhile Char.isDigit
          if ds.isEmpty then none
          else some (second * 1000000 + fractionMicros ds, more.drop ds.length)
        else some (second * 1000000, rest)
      | [] => some (second * 1000000, [])
  | ':' :: _ => none
  | rest => some (0, rest)

/-- A time `HH:MM[:SS[.F]]` at the front of a text, in microseconds after midnight, and the
rest. -/
def timePart? : List Char → Option (Nat × List Char)
  | h1 :: h2 :: ':' :: m1 :: m2 :: rest => do
    let hour ← asciiPair? h1 h2
    let minute ← asciiPair? m1 m2
    if 23 < hour ∨ 59 < minute then none
    else
      let (micros, rest) ← secondsPart? rest
      some ((hour * 60 + minute) * 60000000 + micros, rest)
  | _ => none

/-- The sign of an offset: `+`, `-` or the minus sign U+2212. -/
def offsetSign? (c : Char) : Option Int :=
  if c == '+' then some 1 else if c == '-' || c.toNat == 0x2212 then some (-1) else none

/-- The zone at the end of a text: nothing, `Z`, `z`, or a sign and `HH:MM` or `HHMM` with hours
to 23 and minutes to 59; the offset in minutes, when there is one. -/
def zonePart? : List Char → Option (Option Int)
  | [] => some none
  | ['Z'] | ['z'] => some (some 0)
  | [s, h1, h2, ':', m1, m2] | [s, h1, h2, m1, m2] => do
    let sign ← offsetSign? s
    let hours ← asciiPair? h1 h2
    let minutes ← asciiPair? m1 m2
    if hours < 24 ∧ minutes < 60 then some (some (sign * (hours * 60 + minutes))) else none
  | _ => none

def ofDateTime? (cs : List Char) : Option Stamp := do
  let (date, rest) ← datePart? cs
  match rest with
  | sep :: rest =>
    if sep == 'T' || sep == 't' || sep == ' ' || sep == '_' then do
      let (time, rest) ← timePart? rest
      let zone ← zonePart? rest
      some ⟨date.days * microsPerDay + time, zone⟩
    else none
  | [] => none

def wholeCount? (cs : List Char) : Option Int :=
  let (neg, ds) := Binary64.splitSign cs
  if Binary64.isAsciiDigits ds then
    let mag : Int := Binary64.digitsNat ds
    let n := if neg then -mag else mag
    if -9223372036854775808 ≤ n ∧ n ≤ 9223372036854775807 then some n else none
  else none

/-- Reads a count written as a number: exactly when it is an integer of 64 bits, else, when it
has a point, as the double the decimal number writes. Without a point, `1e3` is no count. -/
def ofCountText? (cs : List Char) : Option Stamp :=
  match wholeCount? cs with
  | some n => ofCount? n
  | none => if cs.contains '.' then Binary64.readDecimal? cs >>= ofDouble? else none

def ofDateText? (cs : List Char) : Option Stamp := do
  let (date, rest) ← datePart? cs
  if rest.isEmpty then some ⟨date.days * microsPerDay, none⟩ else none

def ofText? (s : String) : Option Stamp :=
  let cs := s.toList
  (ofDateTime? cs).orElse fun _ => (ofCountText? cs).orElse fun _ => ofDateText? cs

example : (ofText? "2020-01-02T00:00:00+03:00").map render = some "2020-01-02T00:00:00+03:00" := by
  decide
example : (ofText? "2020-01-02").map render = some "2020-01-02T00:00:00" := by decide

end Stamp

end Cinema.Calendar
