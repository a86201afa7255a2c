import Cinema.Json.Value
import Cinema.Binary64.Text
import Cinema.Text.Printable
import Cinema.Text.Wide

/-!
# The display text of a value

Where a value is put into text (a path segment, a query parameter, a message), it is written in
its display form: text as it is, numbers in decimal (doubles by `Binary64.render`), `None`,
`True` and `False`, and lists and objects in brackets with their items in quoted form.

The quoted form of a text uses single quotes, or double quotes when the text holds a single
quote and no double quote. It escapes the backslash and the quote in use, writes tab, line feed
and carriage return as `\t`, `\n`, `\r`, and writes the other unprintable code points
(`Text.isUnprintableCode`, lone surrogate halves of wide texts among them) as `\x`, `\u` or `\U`
codes.
-/

namespace Cinema.Json

def hexPadded (width : Nat) (n : Nat) : String :=
  let ds := Nat.toDigits 16 n
  String.ofList (List.replicate (width - ds.length) '0' ++ ds)

def quotedCode (q : Char) (n : Nat) : String :=
  if n == q.toNat || n == 0x5C then "\\" ++ (Char.ofNat n).toString
  else if n == 0x09 then "\\t"
  else if n == 0x0A then "\\n"
  else if n == 0x0D then "\\r"
  else if Text.isUnprintableCode n then
    if n < 0x100 then "\\x" ++ hexPadded 2 n
    else if n < 0x10000 then "\\u" ++ hexPadded 4 n
    else "\\U" ++ hexPadded 8 n
  else (Char.ofNat n).toString

def singleQuote : Char := Char.ofNat 39

def quoted (s : String) : String :=
  let cs := s.toList
  let q := if cs.contains singleQuote && !cs.contains '"' then '"' else singleQuote
  q.toString ++ String.join ((Text.Wide.codes cs).map (quotedCode q)) ++ q.toString

mutual
/-- The quoted form of a value: text quoted, everything else as in its display form. -/
def Value.quotedForm : Value → String
  | .null => "None"
  | .bool b => if b then "True" else "False"
  | .int n => toString n
  | .float x => Binary64.render Binary64.Style.plain x
  | .str s => quoted s
  | .arr items => "[" ++ quotedItems items ++ "]"
  | .obj fields => "\x7b" ++ quotedMembers fields ++ "\x7d"

def quotedItems : List Value → String
  | [] => ""
  | [v] => v.quotedForm
  | v :: rest => v.quotedForm ++ ", " ++ quotedItems rest

def quotedMembers : List (String × Value) → String
  | [] => ""
  | [(k, v)] => quoted k ++ ": " ++ v.quotedForm
  | (k, v) :: rest => quoted k ++ ": " ++ v.quotedForm ++ ", " ++ quotedMembers rest
end

/-- The display form of a value: text as it is, everything else in its quoted form. -/
def Value.display : Value → String
  | .str s => s
  | v => v.quotedForm

end Cinema.Json
