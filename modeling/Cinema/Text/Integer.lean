import Cinema.Text.Blank
import Cinema.Text.Digit

/-!
# Integers written as text

An integer is read from text that may have white space at both ends (the information separators
`0x1C` to `0x1F` are none), one sign, and decimal digits of any script with single underscores
between them (`" +1_000 "`, `"٤٢"`). Texts with more than 4300 digits are refused for their
length, which is checked only once the text is otherwise well formed up to its last digit.
-/

namespace Cinema.Text

inductive IntTextError where
  | malformed
  | tooManyDigits (count : Nat)
  deriving DecidableEq, Repr

def maxDigits : Nat := 4300

/-- Splits digits separated by single underscores off the front: the digits, and the rest.
`none` when an underscore is not followed by a digit. -/
def digitRun : List Char → List Char → Option (List Char × List Char)
  | c :: rest, acc =>
    if isAnyDigit c then digitRun rest (c :: acc)
    else if c == '_' ∧ !acc.isEmpty then
      match rest with
      | d :: more => if isAnyDigit d then digitRun more (d :: acc) else none
      | [] => none
    else some (acc.reverse, c :: rest)
  | [], acc => some (acc.reverse, [])

def readInt (s : String) : Except IntTextError Int :=
  let cs := s.toList.dropWhile isWhiteSpace
  let (neg, body) : Bool × List Char := match cs with
    | '-' :: r => (true, r)
    | '+' :: r => (false, r)
    | r => (false, r)
  match body with
  | d :: _ =>
    if !isAnyDigit d then .error .malformed
    else match digitRun body [] with
      | none => .error .malformed
      | some (ds, rest) =>
        if ds.length > maxDigits then .error (.tooManyDigits ds.length)
        else if (rest.dropWhile isWhiteSpace).isEmpty then
          let n : Int := anyDigitsValue ds
          .ok (if neg then -n else n)
        else .error .malformed
  | [] => .error .malformed

end Cinema.Text
