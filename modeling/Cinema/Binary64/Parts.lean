/-!
# A double as sign, integer significand and power of two

Every finite double is `±mant * 2 ^ exp2` with `mant < 2 ^ 53`. This module reads those parts off
the bits, and with them answers the exact questions the service asks of a double: is it whole,
and which integer is it.
-/

namespace Cinema.Binary64

/-- The exact value of a finite double: `(if neg then -1 else 1) * mant * 2 ^ exp2`. -/
structure Parts where
  neg : Bool
  mant : Nat
  exp2 : Int

def biasedExp (x : Float) : Nat := ((x.toBits >>> 52) &&& 0x7FF).toNat

def fraction (x : Float) : Nat := (x.toBits &&& 0xFFFFFFFFFFFFF).toNat

/-- The sign bit of a double, also for zero and not-a-number. -/
def signBit (x : Float) : Bool := (x.toBits >>> 63) == 1

/-- The parts of a finite double; infinities and not-a-number have none. -/
def parts? (x : Float) : Option Parts :=
  let e := biasedExp x
  let f := fraction x
  if e = 0x7FF then none
  else if e = 0 then some ⟨signBit x, f, -1074⟩
  else some ⟨signBit x, f + Nat.pow 2 52, (e : Int) - 1075⟩

def Parts.isWhole (p : Parts) : Bool :=
  0 ≤ p.exp2 || p.mant % Nat.pow 2 (-p.exp2).toNat == 0

/-- The integer a whole double stands for; the fraction is cut off otherwise. -/
def Parts.toInt (p : Parts) : Int :=
  let mag : Nat := if 0 ≤ p.exp2 then p.mant * Nat.pow 2 p.exp2.toNat else p.mant / Nat.pow 2 (-p.exp2).toNat
  if p.neg then -(mag : Int) else mag

def wholeValue? (x : Float) : Option Int :=
  match parts? x with
  | some p => if p.isWhole then some p.toInt else none
  | none => none

def isFinite (x : Float) : Bool := biasedExp x != 0x7FF

def isNaN (x : Float) : Bool := biasedExp x == 0x7FF && fraction x != 0

end Cinema.Binary64
