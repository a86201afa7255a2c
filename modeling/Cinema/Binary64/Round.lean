/-!
# Rounding a ratio to the nearest double

A non-negative ratio `n / d` is carried to the nearest IEEE 754 binary64 value, a tie going to
the even significand. The result is `none` when that nearest value would be `2 ^ 1024` or more,
so each caller decides what overflow means: infinity for a decimal literal, a refusal for an
integer.

Everything is exact `Nat` arithmetic: the ratio is scaled by a power of two so that its integer
part has 53 bits (fewer in the subnormal range), and the remainder decides the last bit.
-/

namespace Cinema.Binary64

/-- The number of significand bits of a normal double, the leading one included. -/
def precision : Nat := 53

/-- The exponent of the least subnormal double: `2 ^ minExp` is its value. -/
def minExp : Int := -1074

/-- The largest `k` for which `m * 2 ^ k` with a 53-bit `m` is still finite. -/
def maxExp : Int := 971

/-- `n / d < 2 ^ t`, decided in `Nat` by moving the power of two to the side where it is whole. -/
def ratioBelowPow2 (n d : Nat) (t : Int) : Bool :=
  if 0 ≤ t then decide (n < d * Nat.pow 2 t.toNat) else decide (n * Nat.pow 2 (-t).toNat < d)

/-- The floor of the base-two logarithm of `n / d`, for `n` and `d` positive. -/
def log2Ratio (n d : Nat) : Int :=
  let t : Int := (Nat.log2 n : Int) - (Nat.log2 d : Int)
  if ratioBelowPow2 n d t then t - 1 else t

/-- Integer division rounding to nearest, a tie going to the even quotient. -/
def divRoundEven (num den : Nat) : Nat :=
  let q := num / den
  let r := num % den
  if 2 * r > den ∨ (2 * r = den ∧ q % 2 = 1) then q + 1 else q

/-- The bits of `m * 2 ^ k`, where `m < 2 ^ 53` and `m ≥ 2 ^ 52` unless `k` is `minExp`. -/
def assemble (m : Nat) (k : Int) : UInt64 :=
  if m < Nat.pow 2 52 then m.toUInt64
  else ((k + 1075).toNat.toUInt64 <<< 52) ||| (m - Nat.pow 2 52).toUInt64

/-- The bits of the double nearest to `n / d`, or `none` past the largest finite double. -/
def nearestBits (n d : Nat) : Option UInt64 :=
  if n = 0 ∨ d = 0 then some 0
  else
    let k : Int := max (log2Ratio n d - 52) minExp
    let m := if 0 ≤ k then divRoundEven n (d * Nat.pow 2 k.toNat) else divRoundEven (n * Nat.pow 2 (-k).toNat) d
    let (m, k) := if m = Nat.pow 2 53 then (Nat.pow 2 52, k + 1) else (m, k)
    if k > maxExp then none else some (assemble m k)

def withSign (neg : Bool) (bits : UInt64) : UInt64 :=
  if neg then bits ||| ((1 : UInt64) <<< 63) else bits

def nearest (neg : Bool) (n d : Nat) : Option Float :=
  (nearestBits n d).map fun b => Float.ofBits (withSign neg b)

def infinity : Float := Float.ofBits 0x7FF0000000000000

def negInfinity : Float := Float.ofBits 0xFFF0000000000000

/-- The quiet not-a-number that reading `NaN` gives. -/
def notANumber : Float := Float.ofBits 0x7FF8000000000000

def decimalLength (n : Nat) : Nat := (Nat.toDigits 10 n).length

/-- The double nearest to `±digits * 10 ^ exp10`, infinite past the largest finite double.
Far outside the range of doubles the answer is fixed without building the power of ten. -/
def ofDecimal (neg : Bool) (digits : Nat) (exp10 : Int) : Float :=
  let top : Int := (decimalLength digits : Int) + exp10
  if digits = 0 ∨ top < -330 then Float.ofBits (withSign neg 0)
  else if top > 310 then (if neg then negInfinity else infinity)
  else
    let r := if 0 ≤ exp10 then nearest neg (digits * Nat.pow 10 exp10.toNat) 1
      else nearest neg digits (Nat.pow 10 (-exp10).toNat)
    r.getD (if neg then negInfinity else infinity)

def ofInt? (i : Int) : Option Float := nearest (i < 0) i.natAbs 1

end Cinema.Binary64
