import Cinema.Binary64.Round

/-!
# Reading a double from decimal text

A decimal number is an optional sign, ASCII digits with an optional point (at least one digit on
one side of it), and an optional exponent: `e` or `E`, an optional sign and ASCII digits. `1.`,
`.5`, `+2` and `3E-2` are numbers; `.`, `e5`, `1e` and `1_0` are not. The double of a number is
the one nearest to its exact value, ties to even, so any number of digits reads correctly.
-/

namespace Cinema.Binary64

def digitsNat (ds : List Char) : Nat := ds.foldl (fun n c => 10 * n + (c.toNat - 48)) 0

/-- ASCII digits, at least one. -/
def isAsciiDigits (cs : List Char) : Bool := !cs.isEmpty && cs.all Char.isDigit

/-- An optional `+` or `-` at the front: whether it is `-`, and the rest. -/
def splitSign (cs : List Char) : Bool × List Char :=
  match cs with
  | '-' :: r => (true, r)
  | '+' :: r => (false, r)
  | r => (false, r)

/-- The power of ten an exponent part writes: nothing at all, or `e` or `E` with an optional sign
and digits. -/
def exponentPart? : List Char → Option Int
  | [] => some 0
  | m :: r =>
    if m == 'e' || m == 'E' then
      let (neg, ds) := splitSign r
      if isAsciiDigits ds then
        let mag : Int := digitsNat ds
        some (if neg then -mag else mag)
      else none
    else none

def unsignedDecimal? (neg : Bool) (cs : List Char) : Option Float :=
  let whole := cs.takeWhile Char.isDigit
  let (frac, rest) := match cs.drop whole.length with
    | '.' :: r => (r.takeWhile Char.isDigit, r.dropWhile Char.isDigit)
    | r => ([], r)
  if whole.isEmpty ∧ frac.isEmpty then none
  else (exponentPart? rest).map fun e => ofDecimal neg (digitsNat (whole ++ frac)) (e - frac.length)

def readDecimal? (cs : List Char) : Option Float :=
  let (neg, body) := splitSign cs
  unsignedDecimal? neg body

example : (readDecimal? "+.5".toList).isSome = true := by decide
example : (readDecimal? "1.".toList).isSome = true := by decide
example : (readDecimal? ".".toList).isNone = true := by decide
example : (readDecimal? "1e".toList).isNone = true := by decide

end Cinema.Binary64
