/-!
# Blank characters

The characters that trimming removes from both ends of a text: the ASCII controls tab to
carriage return, the four information separators, space, next line, no-break space, and the
Unicode spaces and line and paragraph separators. This is wider than `Char.isWhitespace`,
which knows ASCII only.
-/

namespace Cinema.Text

/-- A blank character, as trimming sees it. -/
def isBlank (c : Char) : Bool :=
  let n := c.toNat
  (0x09 ≤ n && n ≤ 0x0D) || (0x1C ≤ n && n ≤ 0x20) || n == 0x85 || n == 0xA0 ||
    n == 0x1680 || (0x2000 ≤ n && n ≤ 0x200A) || n == 0x2028 || n == 0x2029 ||
    n == 0x202F || n == 0x205F || n == 0x3000

/-- A character of the Unicode White_Space property: the blanks less the four information
separators `0x1C` to `0x1F`. Request fields are trimmed of these. -/
def isWhiteSpace (c : Char) : Bool := isBlank c && !(0x1C ≤ c.toNat && c.toNat ≤ 0x1F)

def trimWhiteSpace (cs : List Char) : List Char :=
  ((cs.dropWhile isWhiteSpace).reverse.dropWhile isWhiteSpace).reverse

def trimList (cs : List Char) : List Char :=
  ((cs.dropWhile isBlank).reverse.dropWhile isBlank).reverse

def trim (s : String) : String := String.ofList (trimList s.toList)

end Cinema.Text
