import Cinema.Json.Value
import Cinema.Binary64.Round
import Cinema.Binary64.Parts
import Cinema.Fault

/-!
# Lenient readings of JSON values

Provider records are read leniently: a member of the wrong kind reads as the zero of the kind
wanted (the empty text, `false`, `0`, no list) and never stops the reading. Booleans are not
numbers here. A double counts as an integer exactly when it is whole, and an integer counts as a
double after rounding, which fails only for integers beyond the largest double.
-/

namespace Cinema.Json.Value

def asFields : Value → List (String × Value)
  | .obj fields => fields
  | _ => []

def asItems : Value → List Value
  | .arr items => items
  | _ => []

def asText : Value → String
  | .str s => s
  | _ => ""

def asFlag : Value → Bool
  | .bool b => b
  | _ => false

/-- An integer, or a whole double as its integer; nothing for anything else. -/
def whole? : Value → Option Int
  | .int n => some n
  | .float x => Binary64.wholeValue? x
  | _ => none

def asWhole (v : Value) : Int := v.whole?.getD 0

/-- A double, or an integer rounded to the nearest double; nothing for anything else. -/
def double? : Value → Except Fault (Option Float)
  | .int n => match Binary64.ofInt? n with
    | some x => .ok (some x)
    | none => .error .intTooLargeForDouble
  | .float x => .ok (some x)
  | _ => .ok none

def wholes (v : Value) : List Int := v.asItems.filterMap whole?

/-- The member `key` of an object, `null` when missing or when the value is no object. -/
def field (v : Value) (key : String) : Value := (Value.obj v.asFields).getD key

end Cinema.Json.Value
