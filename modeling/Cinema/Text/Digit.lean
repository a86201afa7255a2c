/-!
# Decimal digits of every script

The decimal digits of every script (general category Nd) come in runs of ten, zero to nine,
each run starting at one of the code points of `digitZeros`. A digit's value is its distance from
the zero of its run. Reading a number "from any digits" uses these; where only ASCII digits count,
`Char.isDigit` is used instead.
-/

namespace Cinema.Text

/-- The first code point of each run of ten decimal digits, ascending. -/
def digitZeros : List Nat :=
  [0x30, 0x660, 0x6F0, 0x7C0, 0x966, 0x9E6, 0xA66, 0xAE6, 0xB66, 0xBE6, 0xC66, 0xCE6, 0xD66,
    0xDE6, 0xE50, 0xED0, 0xF20, 0x1040, 0x1090, 0x17E0, 0x1810, 0x1946, 0x19D0, 0x1A80, 0x1A90,
    0x1B50, 0x1BB0, 0x1C40, 0x1C50, 0xA620, 0xA8D0, 0xA900, 0xA9D0, 0xA9F0, 0xAA50, 0xABF0,
    0xFF10, 0x104A0, 0x10D30, 0x11066, 0x110F0, 0x11136, 0x111D0, 0x112F0, 0x11450, 0x114D0,
    0x11650, 0x116C0, 0x11730, 0x118E0, 0x11950, 0x11C50, 0x11D50, 0x11DA0, 0x16A60, 0x16AC0,
    0x16B50, 0x1D7CE, 0x1D7D8, 0x1D7E2, 0x1D7EC, 0x1D7F6, 0x1E140, 0x1E2F0, 0x1E950, 0x1FBF0]

def digitValue? (c : Char) : Option Nat :=
  let n := c.toNat
  (digitZeros.find? fun z => z ≤ n ∧ n < z + 10).map fun z => n - z

def isAnyDigit (c : Char) : Bool := (digitValue? c).isSome

/-- The number written by a list of decimal digits of any script, most significant first. -/
def anyDigitsValue (cs : List Char) : Nat :=
  cs.foldl (fun acc c => 10 * acc + (digitValue? c).getD 0) 0

theorem digitValue?_of_isDigit (c : Char) (h : c.isDigit = true) :
    digitValue? c = some (c.toNat - 0x30) := by
  simp only [Char.isDigit, Bool.and_eq_true, decide_eq_true_eq] at h
  have h1 : (48 : Nat) ≤ c.toNat := h.1
  have h2 : c.toNat ≤ 57 := h.2
  simp [digitValue?, digitZeros, h1, show c.toNat < 58 by omega]

end Cinema.Text
