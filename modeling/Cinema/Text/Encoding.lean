import Cinema.Text.Wide

/-!
# Text from octets

Decoders from octets to text for UTF-8, UTF-16 and UTF-32, in either byte order.

In UTF-8 a lead octet fixes how many continuation octets follow and the range of
the first of them. The lenient decoder puts one replacement character for each maximal part of an
ill-formed sequence (a lead octet and the continuation octets that fit it, or one stray octet) and
goes on after it. The strict decoder refuses ill-formed input, but lets encoded surrogate halves
through, as it is used for JSON text, whose escapes can write them too.

The decoders give wide texts (see `Text.Wide`): a lone surrogate half that is let through is kept,
and the mark of wide texts is written twice.
-/

namespace Cinema.Text

def replacement : Char := '�'

/-- For a lead octet: how many continuation octets follow, and the range of the first one.
`surrogates` widens the range after `0xED` to let encoded surrogate halves through. -/
def leadShape (surrogates : Bool) (b : Nat) : Option (Nat × Nat × Nat) :=
  if b ≤ 0x7F then some (0, 0, 0)
  else if 0xC2 ≤ b ∧ b ≤ 0xDF then some (1, 0x80, 0xBF)
  else if b = 0xE0 then some (2, 0xA0, 0xBF)
  else if (0xE1 ≤ b ∧ b ≤ 0xEC) ∨ b = 0xEE ∨ b = 0xEF then some (2, 0x80, 0xBF)
  else if b = 0xED then some (2, 0x80, if surrogates then 0xBF else 0x9F)
  else if b = 0xF0 then some (3, 0x90, 0xBF)
  else if 0xF1 ≤ b ∧ b ≤ 0xF3 then some (3, 0x80, 0xBF)
  else if b = 0xF4 then some (3, 0x80, 0x8F)
  else none

inductive Utf8Step where
  | code (n : Nat) (rest : List UInt8)
  /-- A maximal ill-formed part, and the octets after it. -/
  | invalid (rest : List UInt8)

/-- Takes `n` continuation octets, the first within `lo` to `hi` and the others within
`0x80` to `0xBF`, adding their six low bits to `acc`; on a misfit, the octets from the misfit on. -/
def continuation : Nat → Nat → Nat → Nat → List UInt8 → Except (List UInt8) (Nat × List UInt8)
  | 0, _, _, acc, bs => .ok (acc, bs)
  | n + 1, lo, hi, acc, b :: rest =>
    if lo ≤ b.toNat ∧ b.toNat ≤ hi then
      continuation n 0x80 0xBF (acc * 64 + (b.toNat - 0x80)) rest
    else .error (b :: rest)
  | _ + 1, _, _, _, [] => .error []

def utf8Step (surrogates : Bool) : List UInt8 → Option Utf8Step
  | [] => none
  | b :: rest =>
    match leadShape surrogates b.toNat with
    | none => some (.invalid rest)
    | some (0, _, _) => some (.code b.toNat rest)
    | some (n, lo, hi) =>
      let lead := b.toNat % (Nat.pow 2 (6 - n))
      match continuation n lo hi lead rest with
      | .ok (code, after) => some (.code code after)
      | .error after => some (.invalid after)

/-- Decodes UTF-8: lenient decoding replaces each maximal ill-formed part, strict decoding
refuses it. -/
def decodeUtf8 (lenient surrogates : Bool) (bs : List UInt8) : Option String :=
  go bs.length bs []
where
  go : Nat → List UInt8 → List Char → Option String
    | 0, _, acc => some (String.ofList acc.reverse)
    -- every step takes at least one octet, so the length is enough fuel
    | fuel + 1, bs, acc =>
      match utf8Step surrogates bs with
      | none => some (String.ofList acc.reverse)
      | some (.code n rest) => go fuel rest ((Wide.encodeCode n).reverse ++ acc)
      | some (.invalid rest) => if lenient then go fuel rest (replacement :: acc) else none

def decodeUtf8Lenient (bs : List UInt8) : String := (decodeUtf8 true false bs).getD ""

def unit16 (bigEndian : Bool) (a b : UInt8) : Nat :=
  if bigEndian then a.toNat * 256 + b.toNat else b.toNat * 256 + a.toNat

/-- The 16-bit units of the octets; an odd octet at the end is refused. -/
def units16 (bigEndian : Bool) : List UInt8 → Option (List Nat)
  | [] => some []
  | [_] => none
  | a :: b :: rest => (units16 bigEndian rest).map (unit16 bigEndian a b :: ·)

def isHighHalf (u : Nat) : Bool := 0xD800 ≤ u && u < 0xDC00

def isLowHalf (u : Nat) : Bool := 0xDC00 ≤ u && u < 0xE000

def combineHalves (hi lo : Nat) : Nat := 0x10000 + (hi - 0xD800) * 0x400 + (lo - 0xDC00)

/-- The code points of UTF-16 units: a high half and a low half make one code point, and any
other half stays alone. -/
def joinUnits : List Nat → List Nat
  | [] => []
  | [u] => [u]
  | u :: v :: more =>
    if isHighHalf u && isLowHalf v then combineHalves u v :: joinUnits more
    else u :: joinUnits (v :: more)

def decodeUtf16 (bigEndian : Bool) (bs : List UInt8) : Option String :=
  (units16 bigEndian bs).map fun us => Wide.ofCodes (joinUnits us)

/-- Decodes UTF-32; a value past the last code point or a short tail is refused. -/
def decodeUtf32 (bigEndian : Bool) (bs : List UInt8) : Option String :=
  go bs []
where
  go : List UInt8 → List Nat → Option String
    | [], acc => some (Wide.ofCodes acc.reverse)
    | a :: b :: c :: d :: rest, acc =>
      let n := if bigEndian then ((a.toNat * 256 + b.toNat) * 256 + c.toNat) * 256 + d.toNat
        else ((d.toNat * 256 + c.toNat) * 256 + b.toNat) * 256 + a.toNat
      if n < 0x110000 then go rest (n :: acc) else none
    | _, _ => none

end Cinema.Text
