/-!
# Wide texts: code points with lone surrogate halves

JSON text can write a lone surrogate half with a `\u` escape, and the decoders that JSON octets
go through let encoded halves pass; the service keeps such a half in its texts like any other
code point and writes it back as an escape. A Lean string holds only Unicode scalar values, so a
*wide text* keeps each lone half in a string as two characters: the mark U+10FFFF, then
U+100000 plus the half's offset from U+D800. The mark itself, a noncharacter, is kept as two
marks. Every other code point is kept as itself.

The texts the library writes itself never hold the mark, so they are wide texts as they stand,
and joining wide texts gives the wide text of the joined code points. A text from outside that
holds no halves becomes a wide text by `ofString`. `codes` reads the code points back.
-/

namespace Cinema.Text.Wide

/-- The mark that opens a two-character code. -/
def mark : Char := Char.ofNat 0x10FFFF

/-- The character after the mark for the first surrogate half, U+D800. -/
def halfBase : Nat := 0x100000

def isHalf (n : Nat) : Bool := 0xD800 ≤ n && n < 0xE000

def encodeCode (n : Nat) : List Char :=
  if isHalf n then [mark, Char.ofNat (halfBase + (n - 0xD800))]
  else if n = 0x10FFFF then [mark, mark]
  else [Char.ofNat n]

def ofCodes (ns : List Nat) : String := String.ofList (ns.flatMap encodeCode)

/-- The wide text of a string, which holds no halves: each mark written twice. -/
def ofString (s : String) : String := ofCodes (s.toList.map Char.toNat)

/-- The code points of the characters of a wide text, after a mark when `afterMark`. A mark
followed by neither a mark nor a half's character stands for itself. -/
def codesAfter : Bool → List Char → List Nat
  | false, [] => []
  | true, [] => [0x10FFFF]
  | false, c :: rest => if c = mark then codesAfter true rest else c.toNat :: codesAfter false rest
  | true, d :: rest =>
    if d = mark then 0x10FFFF :: codesAfter false rest
    else if halfBase ≤ d.toNat ∧ d.toNat < halfBase + 0x800 then
      (0xD800 + (d.toNat - halfBase)) :: codesAfter false rest
    else 0x10FFFF :: d.toNat :: codesAfter false rest

def codes (cs : List Char) : List Nat := codesAfter false cs

def length (s : String) : Nat := (codes s.toList).length

/-- The UTF-8 octets of a wide text that holds no halves. -/
def utf8Octets (s : String) : List UInt8 :=
  (codes s.toList).flatMap fun n => String.utf8EncodeChar (Char.ofNat n)

def take (n : Nat) (s : String) : String := ofCodes ((codes s.toList).take n)

example :
    codes (ofCodes [0x41, 0xD800, 0x10FFFF, 0xDFFF]).toList = [0x41, 0xD800, 0x10FFFF, 0xDFFF] := by
  decide

end Cinema.Text.Wide
