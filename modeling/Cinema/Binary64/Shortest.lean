import Cinema.Binary64.Round
import Cinema.Binary64.Parts

/-!
# The shortest decimal that reads back as a given double

For a positive finite double `x = mant * 2 ^ exp2`, the reals that round to `x` form an interval
around it, its ends included exactly when `mant` is even. The shortest decimal is found by
trying 1, 2, …, 17 significant digits: on the grid of `p`-digit decimals the two neighbours of
`x` are tested, and the first grid with a neighbour inside the interval wins; of two neighbours
inside, the nearer to `x`, and of two equally near the one with the even last digit.

All values are compared exactly, as `A * 2 ^ e2` against `d * 10 ^ s` in `Nat`.
-/

namespace Cinema.Binary64

/-- Compares `d * 10 ^ s` with `a * 2 ^ e2`, each power moved to the side where it is whole. -/
def compareScaled (d : Nat) (s : Int) (a : Nat) (e2 : Int) : Ordering :=
  let lhs := d * (if 0 ≤ s then Nat.pow 10 s.toNat else 1) * (if e2 < 0 then Nat.pow 2 (-e2).toNat else 1)
  let rhs := a * (if s < 0 then Nat.pow 10 (-s).toNat else 1) * (if 0 ≤ e2 then Nat.pow 2 e2.toNat else 1)
  compare lhs rhs

/-- `⌊a * 2 ^ e2 / 10 ^ s⌋`. -/
def floorScaled (a : Nat) (e2 s : Int) : Nat :=
  let num := a * (if 0 ≤ e2 then Nat.pow 2 e2.toNat else 1) * (if s < 0 then Nat.pow 10 (-s).toNat else 1)
  let den := (if e2 < 0 then Nat.pow 2 (-e2).toNat else 1) * (if 0 ≤ s then Nat.pow 10 s.toNat else 1)
  num / den

/-- `⌊log₁₀ (a * 2 ^ e2)⌋` for positive `a`. -/
def log10Scaled (a : Nat) (e2 : Int) : Int :=
  let num := a * (if 0 ≤ e2 then Nat.pow 2 e2.toNat else 1)
  let den := if e2 < 0 then Nat.pow 2 (-e2).toNat else 1
  let t : Int := (decimalLength num : Int) - (decimalLength den : Int)
  if compareScaled 1 t a e2 == .gt then t - 1 else t

/-- The rounding interval of a positive double, scaled by `2 ^ (exp2 - 2)`: the value is `4 * mant`,
the ends are `low` and `high`, and `closed` says whether the ends belong to it. -/
structure Interval where
  low : Nat
  high : Nat
  e2 : Int
  closed : Bool

/-- The interval of reals that round to `mant * 2 ^ exp2`; below a power of two whose lower
neighbour is closer, the lower half-gap is half as wide. -/
def Parts.interval (p : Parts) : Interval :=
  let narrowBelow := p.mant == Nat.pow 2 52 && p.exp2 > -1074
  { low := if narrowBelow then 4 * p.mant - 1 else 4 * p.mant - 2
    high := 4 * p.mant + 2
    e2 := p.exp2 - 2
    closed := p.mant % 2 == 0 }

def Interval.contains (iv : Interval) (d : Nat) (s : Int) : Bool :=
  match compareScaled d s iv.low iv.e2, compareScaled d s iv.high iv.e2 with
  | .gt, .lt => true
  | .eq, .lt => iv.closed
  | .gt, .eq => iv.closed
  | _, _ => false

structure Decimal where
  digits : Nat
  exp10 : Int

def Decimal.trim (x : Decimal) : Decimal :=
  go (decimalLength x.digits) x
where
  go : Nat → Decimal → Decimal
    | 0, x => x
    | fuel + 1, x =>
      if x.digits ≠ 0 ∧ x.digits % 10 = 0 then go fuel ⟨x.digits / 10, x.exp10 + 1⟩ else x

/-- The best `p`-digit decimal for the double `4 * mant * 2 ^ e2`, if one reads back. -/
def bestOnGrid (p : Parts) (e10 : Int) (digits : Nat) : Option Decimal :=
  let iv := p.interval
  let s : Int := e10 - (digits : Int) + 1
  let d₀ := floorScaled (4 * p.mant) iv.e2 s
  let lowIn := iv.contains d₀ s
  let highIn := iv.contains (d₀ + 1) s
  if lowIn ∧ highIn then
    -- twice the value against the midpoint of the two neighbours
    match compareScaled (2 * d₀ + 1) s (8 * p.mant) iv.e2 with
    | .gt => some ⟨d₀, s⟩
    | .lt => some ⟨d₀ + 1, s⟩
    | .eq => some (if d₀ % 2 = 0 then ⟨d₀, s⟩ else ⟨d₀ + 1, s⟩)
  else if lowIn then some ⟨d₀, s⟩
  else if highIn then some ⟨d₀ + 1, s⟩
  else none

/-- The shortest decimal that reads back as the positive finite double with parts `p`. -/
def shortest (p : Parts) : Decimal :=
  let e10 := log10Scaled p.mant p.exp2
  let rec search : List Nat → Decimal
    | [] => ⟨floorScaled p.mant p.exp2 (e10 - 16), e10 - 16⟩
    | n :: rest => match bestOnGrid p e10 n with
      | some d => d
      | none => search rest
  (search ((List.range 17).map (· + 1))).trim

end Cinema.Binary64
