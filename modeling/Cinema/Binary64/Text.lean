import Cinema.Binary64.Shortest

/-!
# Writing a double as text

A double is written with the shortest digits that read back (`Binary64.shortest`). Where the
decimal point falls decides the layout: positional when the value's decimal exponent is in
`[-4, 16)`, else one digit, a point, the rest and an exponent with a sign and at least two
digits. A whole positional value keeps `.0`. Only the spelling of the infinities and of
not-a-number differs between the places that write doubles, so that is all a `Style` holds.
-/

namespace Cinema.Binary64

structure Style where
  infinity : String
  notANumber : String

/-- The spelling of doubles inside text such as query parameters. -/
def Style.plain : Style := ⟨"inf", "nan"⟩

/-- The spelling of doubles as JSON numbers, which a JSON reader of this library reads back. -/
def Style.json : Style := ⟨"Infinity", "NaN"⟩

def digitChars (n : Nat) : List Char := Nat.toDigits 10 n

/-- Lays out a decimal `0.d₁d₂… * 10 ^ point` as positional or exponent text. -/
def layout (ds : List Char) (point : Int) : String :=
  if point < -3 ∨ point > 16 then
    let e := point - 1
    let sign := if e < 0 then "-" else "+"
    let mag := e.natAbs
    let expText := (if mag < 10 then "0" else "") ++ toString mag
    let rest := ds.drop 1
    String.ofList (ds.take 1) ++ (if rest.isEmpty then "" else "." ++ String.ofList rest) ++
      "e" ++ sign ++ expText
  else if point ≤ 0 then
    "0." ++ String.ofList (List.replicate point.natAbs '0') ++ String.ofList ds
  else
    let k := point.toNat
    if k ≥ ds.length then
      String.ofList ds ++ String.ofList (List.replicate (k - ds.length) '0') ++ ".0"
    else
      String.ofList (ds.take k) ++ "." ++ String.ofList (ds.drop k)

def render (style : Style) (x : Float) : String :=
  match parts? x with
  | none => if isNaN x then style.notANumber
      else if signBit x then "-" ++ style.infinity else style.infinity
  | some p =>
    let sign := if p.neg then "-" else ""
    if p.mant = 0 then sign ++ "0.0"
    else
      let d := shortest p
      let ds := digitChars d.digits
      sign ++ layout ds ((ds.length : Int) + d.exp10)

end Cinema.Binary64
