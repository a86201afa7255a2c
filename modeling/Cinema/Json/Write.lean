import Cinema.Json.Value
import Cinema.Binary64.Text
import Cinema.Text.Wide

/-!
# Writing JSON text

A value is written in one line. Doubles take their shortest text (`Binary64.render`) with
`NaN` and `Infinity` for the non-finite ones, which `Json.read?` reads back. Text escapes the
quote, the backslash and every control character; with `asciiOnly` every character outside
space to tilde is written as `\u` escapes too, as two surrogate halves above the first plane.
Texts are wide texts (see `Text.Wide`), and a lone surrogate half in one is always escaped.
-/

namespace Cinema.Json

/-- How a value is laid out: which characters are escaped and what separates items and keys. -/
structure Layout where
  asciiOnly : Bool
  itemSep : String
  keySep : String

/-- One line, ASCII only, a blank after each separator. -/
def Layout.ascii : Layout := ⟨true, ", ", ": "⟩

/-- One line, any character kept, no blank after separators: the provider's body form. -/
def Layout.compact : Layout := ⟨false, ",", ":"⟩

def hex4 (n : Nat) : String :=
  let ds := Nat.toDigits 16 n
  String.ofList (List.replicate (4 - ds.length) '0' ++ ds)

/-- The `\u` escape of a character, two of them above the first plane. -/
def escapeCode (c : Char) : String :=
  let n := c.toNat
  if n < 0x10000 then "\\u" ++ hex4 n
  else
    let m := n - 0x10000
    "\\u" ++ hex4 (0xD800 + m / 0x400) ++ "\\u" ++ hex4 (0xDC00 + m % 0x400)

def escapeChar (asciiOnly : Bool) (c : Char) : String :=
  match c with
  | '"' => "\\\""
  | '\\' => "\\\\"
  | '\n' => "\\n"
  | '\r' => "\\r"
  | '\t' => "\\t"
  | '\x08' => "\\b"
  | '\x0c' => "\\f"
  | _ =>
    if c.toNat < 0x20 then escapeCode c
    else if asciiOnly ∧ c.toNat > 0x7E then escapeCode c
    else c.toString

/-- The escaped form of one code point of a wide text: a lone surrogate half is always escaped. -/
def escapeCodePoint (asciiOnly : Bool) (n : Nat) : String :=
  if Text.Wide.isHalf n then "\\u" ++ hex4 n else escapeChar asciiOnly (Char.ofNat n)

def quote (asciiOnly : Bool) (s : String) : String :=
  "\"" ++ String.join ((Text.Wide.codes s.toList).map (escapeCodePoint asciiOnly)) ++ "\""

mutual
def Value.write (layout : Layout) : Value → String
  | .null => "null"
  | .bool b => if b then "true" else "false"
  | .int n => toString n
  | .float x => Binary64.render Binary64.Style.json x
  | .str s => quote layout.asciiOnly s
  | .arr items => "[" ++ writeItems layout items ++ "]"
  | .obj fields => "\x7b" ++ writeMembers layout fields ++ "\x7d"

def writeItems (layout : Layout) : List Value → String
  | [] => ""
  | [v] => v.write layout
  | v :: rest => v.write layout ++ layout.itemSep ++ writeItems layout rest

def writeMembers (layout : Layout) : List (String × Value) → String
  | [] => ""
  | [(k, v)] => quote layout.asciiOnly k ++ layout.keySep ++ v.write layout
  | (k, v) :: rest =>
    quote layout.asciiOnly k ++ layout.keySep ++ v.write layout ++ layout.itemSep ++
      writeMembers layout rest
end

end Cinema.Json
