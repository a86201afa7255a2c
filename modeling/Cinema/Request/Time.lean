import Cinema.Request.Lax
import Cinema.Calendar.Stamp
import Cinema.Binary64.Round

/-!
# Lenient reading of dates and times

A date-and-time field is read leniently. A text is a stamp in one of the forms `Stamp.ofText?`
reads, and any other text is refused as neither a date-and-time nor a date. An integer of 64
bits is a whole count of seconds since 1970-01-01T00:00:00 UTC (of milliseconds above 2·10¹⁰ in
size); a larger one is taken as the double nearest to it, and one beyond every double is of the
wrong kind. A double is a count rounded to microseconds. A stamp read before year 1, or a count
beyond the years a stamp may have, fails to parse. A boolean and every other kind of value are
of the wrong kind.
-/

namespace Cinema.Request

open Cinema.Json Cinema.Calendar

def keptStamp : Option Stamp → Checked Stamp
  | some st => if st.isKept then .ok st else Checked.fail .datetimeParsing
  | none => Checked.fail .datetimeParsing

def laxStamp : Value → Checked Stamp
  | .str s => (readableText s).andThen fun s => match Stamp.ofText? s with
    | some st => keptStamp (some st)
    | none => Checked.fail .datetimeFromDateParsing
  | .int n =>
    if minInt64 ≤ n ∧ n ≤ maxInt64 then keptStamp (Stamp.ofCount? n)
    else match Binary64.ofInt? n with
      | some x => keptStamp (Stamp.ofDouble? x)
      | none => Checked.fail .datetimeType
  | .float x => keptStamp (Stamp.ofDouble? x)
  | _ => Checked.fail .datetimeType

end Cinema.Request
