import Cinema.Json.Value
import Cinema.Binary64.Round
import Cinema.Text.Wide

/-!
# Reading JSON text

The grammar is JSON's with three extra literals, `NaN`, `Infinity` and `-Infinity`. A number with
a fraction or an exponent is a double, rounded to nearest; any other number is an exact integer
of at most 4300 digits. A repeated object key keeps its first place and its last value. Texts are
wide texts (see `Text.Wide`), so lone escaped surrogate halves are kept. Arrays and objects may be
nested as deep as the room the reader is given; the first container that would go deeper stops
the reading, unless the text failed to be JSON before it. Between two nested calls at least one
character is consumed for every two steps of fuel, so twice the length of the text, plus two, is
enough.
-/

namespace Cinema.Json

def isBlank (c : Char) : Bool := c == ' ' || c == '\t' || c == '\n' || c == '\r'

def skipBlanks (cs : List Char) : List Char := cs.dropWhile isBlank

def digitVal (c : Char) : Nat := c.toNat - '0'.toNat

def digitsValue (ds : List Char) : Nat := ds.foldl (fun acc c => 10 * acc + digitVal c) 0

def hexVal? (c : Char) : Option Nat :=
  if c.isDigit then some (digitVal c)
  else if 'a' ≤ c ∧ c ≤ 'f' then some (c.toNat - 'a'.toNat + 10)
  else if 'A' ≤ c ∧ c ≤ 'F' then some (c.toNat - 'A'.toNat + 10)
  else none

def hex4? : List Char → Option (Nat × List Char)
  | a :: b :: c :: d :: rest => do
    let va ← hexVal? a
    let vb ← hexVal? b
    let vc ← hexVal? c
    let vd ← hexVal? d
    pure (((va * 16 + vb) * 16 + vc) * 16 + vd, rest)
  | _ => none

/-- The code point of a `\u` escape whose four digits gave `hi`, joining a following escaped low
surrogate half to a high one, and the rest. -/
def unicodeEscape (hi : Nat) (rest : List Char) : Option (Nat × List Char) :=
  if 0xD800 ≤ hi ∧ hi < 0xDC00 then
    match rest with
    | '\\' :: 'u' :: more =>
      match hex4? more with
      | some (lo, after) =>
        if 0xDC00 ≤ lo ∧ lo < 0xE000 then
          some (0x10000 + (hi - 0xD800) * 0x400 + (lo - 0xDC00), after)
        else some (hi, rest)
      | none => none
    | _ => some (hi, rest)
  else some (hi, rest)

/-- Reads the body of a string after its opening quote: the wide text up to the closing quote,
and what follows it. `acc` holds the characters read so far, last first. -/
def readString (cs : List Char) : Option (String × List Char) :=
  go cs.length cs []
where
  go : Nat → List Char → List Char → Option (String × List Char)
    | 0, _, _ => none
    | _ + 1, [], _ => none
    | fuel + 1, c :: rest, acc =>
      if c == '"' then some (String.ofList acc.reverse, rest)
      else if c.toNat < 0x20 then none
      else if c == '\\' then
        match rest with
        | 'u' :: more => do
          let (hi, after) ← hex4? more
          let (code, after) ← unicodeEscape hi after
          go fuel after ((Text.Wide.encodeCode code).reverse ++ acc)
        | e :: more =>
          let simple : Option Char := match e with
            | '"' => some '"' | '\\' => some '\\' | '/' => some '/'
            | 'b' => some '\x08' | 'f' => some '\x0c' | 'n' => some '\n'
            | 'r' => some '\r' | 't' => some '\t' | _ => none
          match simple with
          | some ch => go fuel more (ch :: acc)
          | none => none
        | [] => none
      else go fuel rest (c :: acc)

/-- The largest number of digits an integer literal may have. -/
def maxIntDigits : Nat := 4300

/-- Reads a number literal: `-?(0|[1-9][0-9]*)(.[0-9]+)?([eE][-+]?[0-9]+)?`. A fraction or
exponent makes a double; a dangling point or exponent mark is left unread. -/
def readNumber (cs : List Char) : Option (Value × List Char) :=
  let (neg, body) := match cs with
    | '-' :: r => (true, r)
    | r => (false, r)
  let intDigits := match body with
    | '0' :: _ => ['0']
    | _ => body.takeWhile Char.isDigit
  if intDigits.isEmpty then none
  else
    let afterInt := body.drop intDigits.length
    let (fracDigits, afterFrac) := match afterInt with
      | '.' :: d :: r => if d.isDigit then
          let ds := (d :: r).takeWhile Char.isDigit
          (ds, (d :: r).drop ds.length)
        else ([], afterInt)
      | _ => ([], afterInt)
    let (expPart, rest) : Option Int × List Char := match afterFrac with
      | m :: r =>
        if m == 'e' || m == 'E' then
          let (eneg, r') := match r with
            | '-' :: t => (true, t)
            | '+' :: t => (false, t)
            | t => (false, t)
          let eds := r'.takeWhile Char.isDigit
          if eds.isEmpty then (none, afterFrac)
          else
            let mag : Int := digitsValue eds
            (some (if eneg then -mag else mag), r'.drop eds.length)
        else (none, afterFrac)
      | [] => (none, afterFrac)
    if fracDigits.isEmpty ∧ expPart.isNone then
      if intDigits.length > maxIntDigits then none
      else
        let n : Int := digitsValue intDigits
        some (.int (if neg then -n else n), rest)
    else
      let digits := digitsValue (intDigits ++ fracDigits)
      let exp10 := expPart.getD 0 - fracDigits.length
      some (.float (Binary64.ofDecimal neg digits exp10), rest)

inductive Container where
  | array
  | object
  deriving DecidableEq, Repr

def Container.name : Container → String
  | .array => "array"
  | .object => "object"

inductive ReadError where
  | malformed
  /-- A container of kind `kind` would have been nested deeper than the reader goes. -/
  | tooDeep (kind : Container)
  deriving DecidableEq, Repr

/-- How deep arrays and objects may be nested in a text read on its own. -/
def nestingLimit : Nat := 981

def malformed {α : Type} (r : Option α) : Except ReadError α :=
  match r with
  | some a => .ok a
  | none => .error .malformed

mutual
/-- Reads one value at the front of the text (no leading blanks), and the rest, with `room` more
containers allowed inside. -/
def readValue : Nat → Nat → List Char → Except ReadError (Value × List Char)
  | 0, _, _ => .error .malformed
  | fuel + 1, room, cs =>
    match cs with
    | '"' :: rest => malformed ((readString rest).map fun (s, r) => (.str s, r))
    | '{' :: rest =>
      match room with
      | 0 => .error (.tooDeep .object)
      | room + 1 =>
        match skipBlanks rest with
        | '}' :: r => .ok (.obj [], r)
        | r => readMembers fuel room r []
    | '[' :: rest =>
      match room with
      | 0 => .error (.tooDeep .array)
      | room + 1 =>
        match skipBlanks rest with
        | ']' :: r => .ok (.arr [], r)
        | r => readItems fuel room r []
    | 'n' :: 'u' :: 'l' :: 'l' :: r => .ok (.null, r)
    | 't' :: 'r' :: 'u' :: 'e' :: r => .ok (.bool true, r)
    | 'f' :: 'a' :: 'l' :: 's' :: 'e' :: r => .ok (.bool false, r)
    | 'N' :: 'a' :: 'N' :: r => .ok (.float Binary64.notANumber, r)
    | 'I' :: 'n' :: 'f' :: 'i' :: 'n' :: 'i' :: 't' :: 'y' :: r =>
      .ok (.float Binary64.infinity, r)
    | '-' :: 'I' :: 'n' :: 'f' :: 'i' :: 'n' :: 'i' :: 't' :: 'y' :: r =>
      .ok (.float Binary64.negInfinity, r)
    | _ => malformed (readNumber cs)

/-- Reads the members of an object from its first key on, after `{` and blanks. -/
def readMembers : Nat → Nat → List Char → List (String × Value) →
    Except ReadError (Value × List Char)
  | 0, _, _, _ => .error .malformed
  | fuel + 1, room, cs, acc =>
    match cs with
    | '"' :: rest => do
      let (key, r) ← malformed (readString rest)
      match skipBlanks r with
      | ':' :: r => do
        let (v, r) ← readValue fuel room (skipBlanks r)
        let acc := Value.setField acc key v
        match skipBlanks r with
        | '}' :: r => .ok (.obj acc, r)
        | ',' :: r => readMembers fuel room (skipBlanks r) acc
        | _ => .error .malformed
      | _ => .error .malformed
    | _ => .error .malformed

/-- Reads the items of an array from its first item on, after `[` and blanks; `acc` holds the
items read so far, last first. -/
def readItems : Nat → Nat → List Char → List Value → Except ReadError (Value × List Char)
  | 0, _, _, _ => .error .malformed
  | fuel + 1, room, cs, acc => do
    let (v, r) ← readValue fuel room cs
    match skipBlanks r with
    | ']' :: r => .ok (.arr (v :: acc).reverse, r)
    | ',' :: r => readItems fuel room (skipBlanks r) (v :: acc)
    | _ => .error .malformed
end

/-- Reads a whole wide text as JSON, with room for `room` nested containers: one value with
blanks around it and nothing else. -/
def readWideWithin (room : Nat) (text : String) : Except ReadError Value := do
  let cs := text.toList
  let (v, rest) ← readValue (2 * cs.length + 2) room (skipBlanks cs)
  if (skipBlanks rest).isEmpty then .ok v else .error .malformed

def readWide (text : String) : Except ReadError Value := readWideWithin nestingLimit text

/-- Reads a whole text, which holds no lone surrogate half, as JSON. -/
def read? (text : String) : Option Value := (readWide (Text.Wide.ofString text)).toOption

end Cinema.Json
