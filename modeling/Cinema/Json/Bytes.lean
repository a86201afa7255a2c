import Cinema.Json.Read
import Cinema.Text.Encoding

/-!
# Reading JSON from octets

JSON sent as octets may be UTF-8, UTF-16 or UTF-32. A byte-order mark decides first (UTF-32,
then UTF-16, then UTF-8, whose mark is dropped); without one, the zero octets among the first
four tell the encoding, as JSON text starts with an ASCII character; otherwise it is UTF-8.
-/

namespace Cinema.Json

inductive Encoding where
  | utf8
  | utf8Marked
  | utf16Marked
  | utf16 (bigEndian : Bool)
  | utf32Marked
  | utf32 (bigEndian : Bool)
  deriving DecidableEq, Repr

def detectEncoding (bs : List UInt8) : Encoding :=
  match bs with
  | 0x00 :: 0x00 :: 0xFE :: 0xFF :: _ | 0xFF :: 0xFE :: 0x00 :: 0x00 :: _ => .utf32Marked
  | 0xFE :: 0xFF :: _ | 0xFF :: 0xFE :: _ => .utf16Marked
  | 0xEF :: 0xBB :: 0xBF :: _ => .utf8Marked
  | [a, b] =>
    if a = 0 then .utf16 true else if b = 0 then .utf16 false else .utf8
  | a :: b :: c :: d :: _ =>
    if a = 0 then (if b = 0 then .utf32 true else .utf16 true)
    else if b = 0 then (if c = 0 ∧ d = 0 then .utf32 false else .utf16 false)
    else .utf8
  | _ => .utf8

/-- The wide text of JSON octets, if they are well formed in their encoding. -/
def decodeText (bs : List UInt8) : Option String :=
  match detectEncoding bs with
  | .utf8 => Text.decodeUtf8 false true bs
  | .utf8Marked => Text.decodeUtf8 false true (bs.drop 3)
  | .utf16Marked => Text.decodeUtf16 (bs.take 2 == [0xFE, 0xFF]) (bs.drop 2)
  | .utf16 be => Text.decodeUtf16 be bs
  | .utf32Marked => Text.decodeUtf32 (bs.take 4 == [0x00, 0x00, 0xFE, 0xFF]) (bs.drop 4)
  | .utf32 be => Text.decodeUtf32 be bs

/-- Reads a JSON value from octets, with room for `room` nested containers; octets that are no
text in their encoding are no JSON. -/
def readBytes (room : Nat) (bs : List UInt8) : Except ReadError Value :=
  match decodeText bs with
  | some text => readWideWithin room text
  | none => .error .malformed

end Cinema.Json
