import Cinema.Request.Checked
import Cinema.Json.Read
import Cinema.Binary64.Round
import Cinema.Binary64.Parts
import Cinema.Binary64.Decimal
import Cinema.Text.Blank
import Cinema.Text.Wide

/-!
# Lenient reading of request fields

Request fields are read leniently, each kind by its own rules. An integer may come as an integer,
a boolean, a whole double within 64 bits, or a text: a plain integer text as it is (refused past
4300 digits), any other text once trimmed and freed of one sign, leading zeros, a zero fraction
and single underscores. A double may come as a double, an integer, a boolean or a decimal text
(`inf` and `nan` included). A boolean may come as a boolean, `0` or `1`, or one of the words of
`falseWords` and `trueWords` in any case. A text read character by character must hold no lone
surrogate half, and a list is checked item by item under its index.
-/

namespace Cinema.Request

open Cinema.Json

/-- A text to be read character by character, which needs every code point whole: a lone
surrogate half stands for no character. -/
def readableText (s : String) : Checked String :=
  if (Text.Wide.codes s.toList).any Text.Wide.isHalf then Checked.fail .stringUnicode else .ok s

def maxIntDigits : Nat := 4300

inductive PlainInt where
  /-- An optional `-`, then `0` alone or ASCII digits with no leading zero. -/
  | int (n : Int)
  /-- An optional `-`, then more than `maxIntDigits` ASCII digits with no leading zero, whatever
  follows them. -/
  | tooLong
  | other
  deriving DecidableEq, Repr

/-- Reads a plain integer: an optional `-`, then `0` alone or ASCII digits with no leading zero.
A run of digits that is too long is refused before what follows it is looked at. -/
def plainInt (cs : List Char) : PlainInt :=
  let (neg, body) := match cs with
    | '-' :: r => (true, r)
    | r => (false, r)
  let ds := body.takeWhile Char.isDigit
  match ds with
  | [] => .other
  | '0' :: _ => if body = ['0'] then .int 0 else .other
  | _ =>
    if maxIntDigits < ds.length then .tooLong
    else if ds.length = body.length then
      let n : Int := Binary64.digitsNat ds
      .int (if neg then -n else n)
    else .other

/-- A text without its leading zeros, when it starts with an ASCII digit: after a first `0`,
every `0` and `_` is dropped, except that the one before a `.` stays (`00.0` is `0.0`), and a
text of nothing else keeps its last character. A text that starts with anything but an ASCII
digit has none. -/
def withoutLeadingZeros (cs : List Char) : Option (List Char) :=
  match cs with
  | '0' :: rest =>
    let run := rest.takeWhile fun c => c == '0' || c == '_'
    match rest.drop run.length with
    | [] => some [(cs.getLast?).getD '0']
    | '.' :: more => some ((run.getLast?).getD '0' :: '.' :: more)
    | r => some r
  | d :: _ => if d.isDigit then some cs else none
  | [] => none

/-- A text without a point followed by one or more zeros that end it: `12.00` is `12`, while
`12.` stays. -/
def withoutZeroFraction (cs : List Char) : List Char :=
  match cs.findIdx? (· == '.') with
  | some i =>
    let frac := cs.drop (i + 1)
    if !frac.isEmpty && frac.all (· == '0') then cs.take i else cs
  | none => cs

/-- A text without its underscores, when none starts or ends it and no two stand together;
otherwise as it is. -/
def withoutSingleUnderscores (cs : List Char) : List Char :=
  if cs.head? == some '_' || cs.getLast? == some '_' || (cs.zip (cs.drop 1)).contains ('_', '_')
  then cs
  else cs.filter (· != '_')

/-- Reads an integer from text. A plain integer reads as it is, and one with too many digits is
refused for its size. Any other text is trimmed of white space and loses one sign; what follows
must start with an ASCII digit, and once its leading zeros, a point followed by zeros at its end
and its single underscores are gone, it must be a plain integer, then signed. -/
def intOfText (s : String) : Checked Int :=
  match plainInt s.toList with
  | .int n => .ok n
  | .tooLong => Checked.fail .intParsingSize
  | .other =>
    let (neg, rest) := match Text.trimWhiteSpace s.toList with
      | '-' :: r => (true, r)
      | '+' :: r => (false, r)
      | r => (false, r)
    match withoutLeadingZeros rest with
    | none => Checked.fail .intParsing
    | some r =>
      let r := withoutSingleUnderscores (withoutZeroFraction r)
      match plainInt (if neg then '-' :: r else r) with
      | .int n => .ok n
      | _ => Checked.fail .intParsing

example : withoutLeadingZeros "00-12".toList = some "-12".toList := by decide
example : withoutLeadingZeros "0_0.0".toList = some "0.0".toList := by decide
example : withoutSingleUnderscores (withoutZeroFraction "1_000.0".toList) = "1000".toList := by
  decide
example : withoutZeroFraction "5.".toList = "5.".toList := by decide
example : withoutLeadingZeros "_1".toList = none := by decide

def minInt64 : Int := -9223372036854775808

def maxInt64 : Int := 9223372036854775807

def laxInt : Value → Checked Int
  | .int n => .ok n
  | .bool b => .ok (if b then 1 else 0)
  | .float x => match Binary64.parts? x with
    | none => Checked.fail .finiteNumber
    | some p =>
      if !p.isWhole then Checked.fail .intFromFloat
      else if minInt64 < p.toInt ∧ p.toInt ≤ maxInt64 then .ok p.toInt
      else Checked.fail .intParsingSize
  | .str s => (readableText s).andThen intOfText
  | _ => Checked.fail .intType

/-- The double a text writes, sign included: a decimal number, or `inf`, `infinity` or `nan` in
any case. -/
def doubleWord? (cs : List Char) : Option Float :=
  let (neg, body) := Binary64.splitSign cs
  let word := String.ofList (body.map Char.toLower)
  if word == "inf" || word == "infinity" then
    some (if neg then Binary64.negInfinity else Binary64.infinity)
  else if word == "nan" then some Binary64.notANumber
  else Binary64.unsignedDecimal? neg body

def withoutUnderscores? (cs : List Char) : Option (List Char) :=
  if cs.head? == some '_' || cs.getLast? == some '_' || (cs.zip (cs.drop 1)).contains ('_', '_') then
    none
  else some (cs.filter (· != '_'))

/-- Reads a double from text, white space trimmed; failing that, from the untrimmed text with its
underscores removed. -/
def floatOfText (s : String) : Checked Float :=
  match doubleWord? (Text.trimWhiteSpace s.toList) with
  | some x => .ok x
  | none => match (withoutUnderscores? s.toList).bind doubleWord? with
    | some x => .ok x
    | none => Checked.fail .floatParsing

/-- Reads a double leniently; an integer beyond every double is of the wrong kind. -/
def laxFloat : Value → Checked Float
  | .float x => .ok x
  | .int n => match Binary64.ofInt? n with
    | some x => .ok x
    | none => Checked.fail .floatType
  | .bool b => .ok (if b then 1.0 else 0.0)
  | .str s => (readableText s).andThen floatOfText
  | _ => Checked.fail .floatType

def falseWords : List String := ["0", "off", "f", "false", "n", "no"]

def trueWords : List String := ["1", "on", "t", "true", "y", "yes"]

def boolOfInt (n : Int) : Checked Bool :=
  if n = 0 then .ok false else if n = 1 then .ok true else Checked.fail .boolParsing

/-- Reads a boolean leniently. An integer, or a double read as one, must fit 64 bits to be
compared with `0` and `1`; beyond that it is of the wrong kind. -/
def laxBool : Value → Checked Bool
  | .bool b => .ok b
  | .int n => if minInt64 ≤ n ∧ n ≤ maxInt64 then boolOfInt n else Checked.fail .boolType
  | .float x => match laxInt (.float x) with
    | .ok n => boolOfInt n
    | .bad _ => Checked.fail .boolType
  | .str s => (readableText s).andThen fun s =>
    let w := String.ofList (s.toList.map Char.toLower)
    if falseWords.contains w then .ok false
    else if trueWords.contains w then .ok true
    else Checked.fail .boolParsing
  | _ => Checked.fail .boolType

def strictText : Value → Checked String
  | .str s => .ok s
  | _ => Checked.fail .stringType

inductive CodeOrName where
  | code (n : Int)
  | name (s : String)
  deriving DecidableEq, Repr

def CodeOrName.toValue : CodeOrName → Value
  | .code n => .int n
  | .name s => .str s

/-- Reads a code or a name: an integer or a text as it is, else an integer leniently; a value that
is neither has an issue under each of the two kinds. -/
def codeOrName : Value → Checked CodeOrName
  | .int n => .ok (.code n)
  | .str s => .ok (.name s)
  | v => match laxInt v with
    | .ok n => .ok (.code n)
    | .bad issues =>
      .bad (issues.map (fun i => { i with loc := "int" :: i.loc }) ++ [⟨["str"], .stringType⟩])

def checkAll {α : Type} : List (Checked α) → Checked (List α)
  | [] => .ok []
  | c :: rest => List.cons <$> c <*> checkAll rest

def listOf {α : Type} (item : Value → Checked α) : Value → Checked (List α)
  | .arr items => checkAll (items.zipIdx.map fun (v, i) => (item v).under (toString i))
  | _ => Checked.fail .listType

def optional {α : Type} (read : Value → Checked α) : Value → Checked (Option α)
  | .null => .ok none
  | v => some <$> read v

def required {α : Type} (fields : List (String × Value)) (name : String)
    (read : Value → Checked α) : Checked α :=
  Checked.under name (match fields.find? (·.1 == name) with
    | some (_, v) => read v
    | none => Checked.fail .missing)

def withDefault {α : Type} (fields : List (String × Value)) (name : String) (default : α)
    (read : Value → Checked α) : Checked α :=
  Checked.under name (match fields.find? (·.1 == name) with
    | some (_, v) => read v
    | none => .ok default)

def optionalField {α : Type} (fields : List (String × Value)) (name : String)
    (read : Value → Checked α) : Checked (Option α) :=
  withDefault fields name none (optional read)

def atLeast (lo : Int) (n : Int) : Checked Int :=
  if lo ≤ n then .ok n else Checked.fail .greaterThanEqual

def above (lo : Int) (n : Int) : Checked Int :=
  if lo < n then .ok n else Checked.fail .greaterThan

def atMost (hi : Int) (n : Int) : Checked Int :=
  if n ≤ hi then .ok n else Checked.fail .lessThanEqual

def within (lo hi : Int) (v : Value) : Checked Int :=
  (laxInt v).andThen fun n => (atMost hi n).andThen (atLeast lo)

/-- A text of `lo` to `hi` characters, every one of them whole. -/
def textOfLength (lo hi : Nat) (v : Value) : Checked String :=
  ((strictText v).andThen readableText).andThen fun s =>
    if Text.Wide.length s < lo then Checked.fail .stringTooShort
    else if Text.Wide.length s > hi then Checked.fail .stringTooLong
    else .ok s

def requestFields (v : Value) : Checked (List (String × Value)) :=
  match v with
  | .obj fields => .ok fields
  | _ => Checked.fail .modelType

end Cinema.Request
