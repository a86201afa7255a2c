import Cinema.Text.Integer
import Cinema.Binary64.Round
import Cinema.Binary64.Parts
import Cinema.Json.Value
import Cinema.Fault

/-!
# Gateway headers

The gateway authenticates the caller and passes the user id in a header. A present header is
made an integer: a text as `Text.readInt` reads it, a boolean as `0` or `1`, an integer as it is,
a finite double with its fraction cut off. A text that is no integer, not-a-number, and an id
outside 1 to `2 ^ 63 - 1` are refused with status 422; an infinite double, a list or an object
cannot be made an integer at all, which is a fault.

A second header carries the caller's timeout in milliseconds, `15000` when it counts as false
(absent, zero, empty). The service works with it in seconds: an integer (a boolean being `0` or
`1`) divided by a thousand and rounded to the nearest double, or a double divided by a thousand
as doubles divide. Nothing else can be divided.
-/

namespace Cinema.Gateway

open Cinema.Json

/-- The largest user id, the largest signed 64-bit integer. -/
def maxUserId : Int := 9223372036854775807

structure Refusal where
  status : Nat
  message : String
  deriving DecidableEq, Repr

def invalidUserId : Refusal := ⟨422, "Invalid X-User-Id"⟩

/-- Why a header was not taken: refused with a status, or a value of a kind that cannot be
read at all. -/
inductive Rejection where
  | refused (r : Refusal)
  | fault (f : Fault)
  deriving DecidableEq, Repr

/-- The integer a header value is made: `none` when its text or double stands for no integer. -/
def integerOf : Value → Except Fault (Option Int)
  | .str text => .ok (Text.readInt text).toOption
  | .bool b => .ok (some (if b then 1 else 0))
  | .int n => .ok (some n)
  | .float x =>
    match Binary64.parts? x with
    | some p => .ok (some p.toInt)
    | none => if Binary64.isNaN x then .ok none else .error .infiniteToInteger
  | v => .error (.notIntegerArgument v.kindName)

def identityOf : Value → Except Rejection (Option Int)
  | .null => .ok none
  | v =>
    match integerOf v with
    | .error f => .error (.fault f)
    | .ok (some n) => if 0 < n ∧ n ≤ maxUserId then .ok (some n) else .error (.refused invalidUserId)
    | .ok none => .error (.refused invalidUserId)

/-- The timeout used when the caller sends none. -/
def defaultTimeoutMs : Int := 15000

/-- An integer number of milliseconds in seconds, rounded to the nearest double; a quotient
beyond every double is a fault. -/
def secondsOfMs (ms : Int) : Except Fault Float :=
  match Binary64.nearest (ms < 0) ms.natAbs 1000 with
  | some x => .ok x
  | none => .error .quotientTooLargeForDouble

/-- The caller's timeout in seconds: the header's milliseconds, or the default when the header
counts as false, divided by a thousand. -/
def timeoutSeconds (header : Value) : Except Fault Float :=
  match (if header.truthy then header else .int defaultTimeoutMs) with
  | .int n => secondsOfMs n
  | .bool b => secondsOfMs (if b then 1 else 0)
  | .float x => .ok (x / 1000)
  | v => .error (.unsupportedDivision v.kindName)

example : (identityOf (.str " 42 ")).toOption = some (some 42) := by decide
example : identityOf (.bool false) = .error (.refused invalidUserId) := rfl
example : identityOf (.arr []) = .error (.fault (.notIntegerArgument "list")) := rfl

end Cinema.Gateway
