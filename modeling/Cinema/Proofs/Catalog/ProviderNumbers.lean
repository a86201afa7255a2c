import Cinema.Catalog.Choice
import Cinema.Proofs.Binary64.WholeDoubles

/-!
# How a provider record's numbers are read

Every numeric field of the catalog's entities is read by `whole?`, `asWhole`, `double?` or
`wholes`, and a person's gender by `Gender.ofProvider`. `whole?` takes an integer, or a finite
double of whole value as its integer; `double?` takes a double, or an integer as the nearest
double, failing only past every double. A boolean is read like a missing number everywhere, and
the two readings agree: a value read as the integer `n` and as the double `y` has `n` convert to a
double `==` to `y`. A double's value is the exact one Lean's model of floats gives its bits
(`Binary64.value?`). The main statement is `provider_numbers_read_by_kind`.
-/

set_option autoImplicit false
set_option relaxedAutoImplicit false

namespace Cinema

namespace Json.Value

theorem whole?_float_eq_some_iff (x : Float) (n : Int) :
    (Value.float x).whole? = some n ↔ Binary64.value? x = some (n : ℚ) :=
  Binary64.wholeValue?_eq_some_iff x n

theorem whole?_of_not_number {v : Value} (notInt : ∀ n, v ≠ .int n)
    (notFloat : ∀ x, v ≠ .float x) : v.whole? = none := by
  cases v with
  | int n => exact absurd rfl (notInt n)
  | float x => exact absurd rfl (notFloat x)
  | null | bool _ | str _ | arr _ | obj _ => rfl

theorem double?_of_not_number {v : Value} (notInt : ∀ n, v ≠ .int n)
    (notFloat : ∀ x, v ≠ .float x) : v.double? = .ok none := by
  cases v with
  | int n => exact absurd rfl (notInt n)
  | float x => exact absurd rfl (notFloat x)
  | null | bool _ | str _ | arr _ | obj _ => rfl

theorem double?_int_eq_ok_iff (n : Int) (y : Float) :
    (Value.int n).double? = .ok (some y) ↔ Binary64.ofInt? n = some y := by
  cases fits : Binary64.ofInt? n with
  | none => simp [Value.double?, fits]
  | some x => simp [Value.double?, fits]

theorem double?_int_eq_error_iff (n : Int) :
    (Value.int n).double? = .error .intTooLargeForDouble ↔ Binary64.ofInt? n = none := by
  cases fits : Binary64.ofInt? n with
  | none => simp [Value.double?, fits]
  | some x => simp [Value.double?, fits]

/-- A value read both as the integer `n` and as the double `y` has `n` convert to a double that
is `==` to `y`: for an integer both readings are the one conversion, which gives a finite double;
for a double, its integer converts back to it. -/
theorem ofInt?_whole?_beq {v : Value} {n : Int} {y : Float} (whole : v.whole? = some n)
    (double : v.double? = .ok (some y)) :
    ∃ z, Binary64.ofInt? n = some z ∧ (z == y) = true := by
  cases v with
  | int m =>
    cases whole
    have converted := (double?_int_eq_ok_iff n y).mp double
    exact ⟨y, converted, Binary64.beq_self (Binary64.ofInt?_finite converted)⟩
  | float x =>
    cases double
    exact Binary64.ofInt?_wholeValue? whole
  | null | bool _ | str _ | arr _ | obj _ => cases whole

end Json.Value

namespace Catalog

open Cinema.Json

theorem Gender.ofProvider_eq_iff (v : Value) (g : Gender) (given : g ≠ .notSet) :
    Gender.ofProvider v = g ↔ v.whole? = some (Choice.code g : Int) := by
  unfold Gender.ofProvider
  split <;> cases g <;> simp_all [Choice.code]

/-- How the numbers of a provider record are read: `whole?` takes integers and doubles of whole
value, `asWhole` puts `0` for anything else, `double?` takes integers (rounded, refusing only the
ones too large) and doubles, `wholes` keeps the items `whole?` reads, and a gender is the one its
code names. A value read both ways gives an integer that converts to a double `==` to the double
it reads as. A boolean reads as `null` does. -/
theorem provider_numbers_read_by_kind :
    (∀ n : Int, (Value.int n).whole? = some n) ∧
    (∀ (x : Float) (n : Int),
      (Value.float x).whole? = some n ↔ Binary64.value? x = some (n : ℚ)) ∧
    (∀ v : Value, (∀ n, v ≠ .int n) → (∀ x, v ≠ .float x) → v.whole? = none) ∧
    (∀ v : Value, v.asWhole = v.whole?.getD 0) ∧
    (∀ (n : Int) (y : Float),
      (Value.int n).double? = .ok (some y) ↔ Binary64.ofInt? n = some y) ∧
    (∀ n : Int,
      (Value.int n).double? = .error .intTooLargeForDouble ↔ Binary64.ofInt? n = none) ∧
    (∀ x : Float, (Value.float x).double? = .ok (some x)) ∧
    (∀ v : Value, (∀ n, v ≠ .int n) → (∀ x, v ≠ .float x) → v.double? = .ok none) ∧
    (∀ (v : Value) (n : Int) (y : Float), v.whole? = some n → v.double? = .ok (some y) →
      ∃ z, Binary64.ofInt? n = some z ∧ (z == y) = true) ∧
    (∀ items : List Value, (Value.arr items).wholes = items.filterMap Value.whole?) ∧
    (∀ v : Value,
      (Gender.ofProvider v = .female ↔ v.whole? = some 1) ∧
      (Gender.ofProvider v = .male ↔ v.whole? = some 2) ∧
      (Gender.ofProvider v = .nonBinary ↔ v.whole? = some 3)) ∧
    Gender.ofProvider (.float 2.0) = .male ∧ Gender.ofProvider (.bool true) ≠ .male ∧
    Gender.ofProvider (.str "2") ≠ .male ∧
    (∀ b : Bool, (Value.bool b).whole? = Value.null.whole? ∧
      (Value.bool b).asWhole = Value.null.asWhole ∧
      (Value.bool b).double? = Value.null.double? ∧
      Gender.ofProvider (.bool b) = Gender.ofProvider .null) :=
  ⟨fun _ => rfl, Value.whole?_float_eq_some_iff, fun _ => Value.whole?_of_not_number,
    fun _ => rfl, Value.double?_int_eq_ok_iff, Value.double?_int_eq_error_iff, fun _ => rfl,
    fun _ => Value.double?_of_not_number, fun _ _ _ => Value.ofInt?_whole?_beq, fun _ => rfl,
    fun v => ⟨Gender.ofProvider_eq_iff v .female (by decide),
      Gender.ofProvider_eq_iff v .male (by decide),
      Gender.ofProvider_eq_iff v .nonBinary (by decide)⟩,
    by decide +kernel, by decide, by decide, fun _ => ⟨rfl, rfl, rfl, rfl⟩⟩

/-- Negative zero reads as the integer `0` and as itself, and `0` converts to a double `==` to
it. -/
theorem negative_zero_reads_as_zero :
    (Value.float (-0.0)).whole? = some 0 ∧ (Value.float (-0.0)).double? = .ok (some (-0.0)) ∧
      ∃ z, Binary64.ofInt? 0 = some z ∧ (z == -0.0) = true :=
  have whole : (Value.float (-0.0)).whole? = some 0 := by decide +kernel
  have double : (Value.float (-0.0)).double? = .ok (some (-0.0)) := rfl
  ⟨whole, double, provider_numbers_read_by_kind.2.2.2.2.2.2.2.2.1 _ 0 _ whole double⟩

end Catalog

end Cinema
