/-!
# Capital letters for matching ASCII names

Names of choices are matched after turning a text to capitals. The names are ASCII, so only the
characters whose full Unicode capital form is ASCII matter: the ASCII small letters, and ten
others whose capital forms are ASCII: `ß` (`SS`), dotless `ı` (`I`), long `ſ` (`S`) and the
Latin ligatures `ﬀ ﬁ ﬂ ﬃ ﬄ ﬅ ﬆ`. Every other character is kept as it is: its capital form is
not ASCII, so a text holding it matches no name before or after.
-/

namespace Cinema.Text

/-- The capital form of one character, as far as it can be ASCII. -/
def upperChar (c : Char) : List Char :=
  if 'a' ≤ c ∧ c ≤ 'z' then [Char.ofNat (c.toNat - 32)]
  else match c.toNat with
    | 0xDF => ['S', 'S']
    | 0x131 => ['I']
    | 0x17F => ['S']
    | 0xFB00 => ['F', 'F']
    | 0xFB01 => ['F', 'I']
    | 0xFB02 => ['F', 'L']
    | 0xFB03 => ['F', 'F', 'I']
    | 0xFB04 => ['F', 'F', 'L']
    | 0xFB05 => ['S', 'T']
    | 0xFB06 => ['S', 'T']
    | _ => [c]

/-- A text in capitals, for matching against ASCII names. -/
def upperName (s : String) : String := String.ofList (s.toList.flatMap upperChar)

end Cinema.Text
