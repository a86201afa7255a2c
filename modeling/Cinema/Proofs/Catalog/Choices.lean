import Mathlib.Data.Nat.Digits.Defs
import Cinema.Catalog.Choice

/-!
# How a loose value names a member of a choice

The three choices of the wire protocol (a person's gender, the order of a discovery query and
the way a title is watched) each list every member they have. For such a choice a loose value
resolves by its kind alone: a boolean to member `0`; an integer to the member with that code, or
member `0` when none has it; a text, trimmed and put in capitals, that is a minus sign or none
followed by ASCII digits, to what the integer it writes resolves to; any other text to the member
of that name, or member `0`; and every other value to member `0`.

The one exception is the length of a written integer. A text of more than 4300 digits is refused
for its length by the integer reader, so it does not resolve at all: the resolution stops with
that fault where every other unknown value gives member `0`.

The rule is the structure `Resolves`; `resolves` proves it for every complete choice, and the
main statement is `wire_choices_resolve_by_kind`.
-/

set_option autoImplicit false
set_option relaxedAutoImplicit false

namespace Cinema.Catalog

open Cinema.Json

/-! ## Integers written in ASCII -/

def integerText (neg : Bool) (ds : List Char) : String :=
  String.ofList (if neg then '-' :: ds else ds)

def integerValue (neg : Bool) (ds : List Char) : Int :=
  let n : Nat := Nat.ofDigits 10 (ds.reverse.map fun c => c.toNat - 48)
  if neg then -n else n

def IsNumeral (ds : List Char) : Prop := ds ≠ [] ∧ ∀ c ∈ ds, c.isDigit = true

namespace Text

open Cinema.Text

theorem isAnyDigit_of_isDigit {c : Char} (digit : c.isDigit = true) : isAnyDigit c = true := by
  simp [isAnyDigit, digitValue?_of_isDigit c digit]

theorem isWhiteSpace_of_isDigit {c : Char} (digit : c.isDigit = true) : isWhiteSpace c = false := by
  have range : 48 ≤ c.toNat ∧ c.toNat ≤ 57 := Char.isDigit_iff_toNat.mp digit
  simp only [isWhiteSpace, isBlank, Bool.not_and, Bool.and_eq_false_imp, Bool.or_eq_true,
    Bool.and_eq_true, decide_eq_true_eq, beq_iff_eq, Bool.or_eq_false_iff, Bool.not_eq_eq_eq_not,
    Bool.not_false]
  omega

theorem digitRun_of_digits (ds acc : List Char) (digits : ∀ c ∈ ds, isAnyDigit c = true) :
    digitRun ds acc = some (acc.reverse ++ ds, []) := by
  induction ds generalizing acc with
  | nil => simp [digitRun]
  | cons c rest ih =>
    have head : isAnyDigit c = true := digits c (by simp)
    rw [digitRun.eq_def]
    simp only [head, if_true]
    rw [ih (c :: acc) fun d mem => digits d (by simp [mem])]
    simp

theorem anyDigitsValue_reverse (rs : List Char) (digits : ∀ c ∈ rs, c.isDigit = true) :
    anyDigitsValue rs.reverse = Nat.ofDigits 10 (rs.map fun c => c.toNat - 48) := by
  induction rs with
  | nil => rfl
  | cons c rs ih =>
    have last : c.isDigit = true := digits c (by simp)
    have before := ih fun d mem => digits d (by simp [mem])
    simp only [anyDigitsValue, List.reverse_cons, List.foldl_append, List.foldl_cons,
      List.foldl_nil] at before ⊢
    rw [before, digitValue?_of_isDigit c last, List.map_cons, Nat.ofDigits_cons]
    simp only [Option.getD_some]
    omega

theorem anyDigitsValue_eq_ofDigits (ds : List Char) (digits : ∀ c ∈ ds, c.isDigit = true) :
    anyDigitsValue ds = Nat.ofDigits 10 (ds.reverse.map fun c => c.toNat - 48) := by
  have reversed := anyDigitsValue_reverse ds.reverse fun c mem => digits c (List.mem_reverse.mp mem)
  rwa [List.reverse_reverse] at reversed

/-- A numeral reads as the integer it writes, unless it has more than 4300 digits. -/
theorem readInt_integerText (neg : Bool) {ds : List Char} (numeral : IsNumeral ds) :
    readInt (integerText neg ds) =
      if maxDigits < ds.length then .error (.tooManyDigits ds.length)
      else .ok (integerValue neg ds) := by
  obtain ⟨nonempty, digits⟩ := numeral
  obtain ⟨d, rest, rfl⟩ := List.exists_cons_of_ne_nil nonempty
  have first : d.isDigit = true := digits d (by simp)
  have run := digitRun_of_digits (d :: rest) [] fun c mem => isAnyDigit_of_isDigit (digits c mem)
  have value := anyDigitsValue_eq_ofDigits (d :: rest) digits
  -- the text starts with its sign or its first digit, so no white space is dropped
  have chars : (integerText neg (d :: rest)).toList.dropWhile isWhiteSpace =
      if neg then '-' :: d :: rest else d :: rest := by
    cases neg <;> simp [integerText, isWhiteSpace_of_isDigit first,
      show isWhiteSpace '-' = false by decide]
  have unsigned : d ≠ '-' ∧ d ≠ '+' := by
    simp only [Char.isDigit, Bool.and_eq_true, decide_eq_true_eq] at first
    constructor <;> intro same <;> subst same <;> simp at first
  simp only [readInt, chars]
  cases neg with
  | true =>
    simp only [if_true, isAnyDigit_of_isDigit first, run, Bool.not_true]
    split <;> simp_all [integerValue]
  | false =>
    simp only [Bool.false_eq_true, if_false, unsigned.1, unsigned.2, List.cons.injEq, false_and,
      imp_false, not_false_eq_true, forall_const, isAnyDigit_of_isDigit first, Bool.not_true, run]
    split <;> simp_all [integerValue]

theorem isIntegerName_iff (s : String) :
    Choice.isIntegerName s = true ↔ ∃ neg ds, IsNumeral ds ∧ s = integerText neg ds := by
  constructor
  · intro named
    unfold Choice.isIntegerName at named
    split at named
    · rename_i ds minus
      simp only [Bool.and_eq_true, Bool.not_eq_eq_eq_not, Bool.not_true, List.isEmpty_eq_false_iff,
        ne_eq, List.all_eq_true] at named
      refine ⟨true, ds, named, ?_⟩
      rw [integerText, if_pos rfl, ← minus, String.ofList_toList]
    · simp only [Bool.and_eq_true, Bool.not_eq_eq_eq_not, Bool.not_true, List.isEmpty_eq_false_iff,
        ne_eq, List.all_eq_true] at named
      refine ⟨false, s.toList, named, ?_⟩
      rw [integerText, if_neg Bool.false_ne_true, String.ofList_toList]
  · rintro ⟨neg, ds, ⟨nonempty, digits⟩, rfl⟩
    obtain ⟨d, rest, rfl⟩ := List.exists_cons_of_ne_nil nonempty
    have first : d.isDigit = true := digits d (by simp)
    have notMinus : d ≠ '-' := by
      intro same
      subst same
      simp at first
    cases neg with
    | true => simp_all [Choice.isIntegerName, integerText]
    | false =>
      simp only [Choice.isIntegerName, integerText, Bool.false_eq_true, if_false,
        String.toList_ofList]
      split
      · simp_all
      · simp_all

theorem isBlank_of_isDigit {c : Char} (digit : c.isDigit = true) : isBlank c = false := by
  have range : 48 ≤ c.toNat ∧ c.toNat ≤ 57 := Char.isDigit_iff_toNat.mp digit
  simp only [isBlank, Bool.or_eq_false_iff, Bool.and_eq_false_imp, decide_eq_true_eq,
    decide_eq_false_iff_not, Nat.not_le, beq_eq_false_iff_ne, ne_eq]
  omega

theorem dropWhile_of_forall {p : Char → Bool} {cs : List Char} (none_ : ∀ c ∈ cs, p c = false) :
    cs.dropWhile p = cs := by
  cases cs with
  | nil => rfl
  | cons c rest => simp [none_ c (by simp)]

theorem flatMap_upperChar {cs : List Char} (kept : ∀ c ∈ cs, upperChar c = [c]) :
    cs.flatMap upperChar = cs := by
  induction cs with
  | nil => rfl
  | cons c rest ih =>
    rw [List.flatMap_cons, kept c (by simp), ih fun d mem => kept d (by simp [mem])]
    rfl

theorem plain_of_sign_or_digit {c : Char} (signOrDigit : c = '-' ∨ c.isDigit = true) :
    isBlank c = false ∧ upperChar c = [c] := by
  rcases signOrDigit with rfl | digit
  · exact ⟨by decide, by decide⟩
  · refine ⟨isBlank_of_isDigit digit, ?_⟩
    have range : 48 ≤ c.toNat ∧ c.toNat ≤ 57 := Char.isDigit_iff_toNat.mp digit
    have notLower : ¬('a' ≤ c ∧ c ≤ 'z') := by
      rintro ⟨above, _⟩
      have : (97 : Nat) ≤ c.toNat := above
      omega
    simp only [upperChar, notLower, if_false]
    split <;> simp_all

theorem upperName_trim_integerText (neg : Bool) {ds : List Char} (numeral : IsNumeral ds) :
    upperName (trim (integerText neg ds)) = integerText neg ds := by
  have plain : ∀ c ∈ (if neg then '-' :: ds else ds), isBlank c = false ∧ upperChar c = [c] := by
    intro c mem
    apply plain_of_sign_or_digit
    cases neg with
    | true =>
      rcases List.mem_cons.mp mem with rfl | inner
      · exact .inl rfl
      · exact .inr (numeral.2 c inner)
    | false => exact .inr (numeral.2 c mem)
  have trimmed : trimList (if neg then '-' :: ds else ds) = if neg then '-' :: ds else ds := by
    rw [trimList, dropWhile_of_forall fun c mem => (plain c mem).1,
      dropWhile_of_forall fun c mem => (plain c (List.mem_reverse.mp mem)).1, List.reverse_reverse]
  rw [integerText, trim, String.toList_ofList, trimmed, upperName, String.toList_ofList,
    flatMap_upperChar fun c mem => (plain c mem).2]

end Text

/-! ## Members by code and by name -/

namespace Choice

variable {α : Type} [Choice α]

def Complete (α : Type) [Choice α] : Prop := ∀ m : α, m ∈ (members : List α)

/-- `m` is the member with code `n`, or member `0` when no member has that code. -/
def CodeOf (n : Int) (m : α) : Prop :=
  (code m : Int) = n ∨ (m = unspecified ∧ ∀ m' : α, (code m' : Int) ≠ n)

/-- `m` is the member named `s`, or member `0` when no member has that name. -/
def NameOf (s : String) (m : α) : Prop :=
  name m = s ∨ (m = unspecified ∧ ∀ m' : α, name m' ≠ s)

theorem codeOf_ofCode? (complete : Complete α) (n : Int) :
    CodeOf n ((ofCode? n : Option α).getD unspecified) := by
  cases found : (ofCode? n : Option α) with
  | none =>
    refine .inr ⟨rfl, fun m same => ?_⟩
    have missing := List.find?_eq_none.mp found m (complete m)
    simp [same] at missing
  | some m => exact .inl (by simpa using List.find?_some found)

theorem nameOf_ofName? (complete : Complete α) (s : String) :
    NameOf s ((ofName? s : Option α).getD unspecified) := by
  cases found : (ofName? s : Option α) with
  | none =>
    refine .inr ⟨rfl, fun m same => ?_⟩
    have missing := List.find?_eq_none.mp found m (complete m)
    simp [same] at missing
  | some m => exact .inl (by simpa using List.find?_some found)

/-! ## Resolution by kind -/

/-- How a loose value resolves to a member of `α`, by the kind of value. A text counts by its
form trimmed and in capitals. -/
structure Resolves (α : Type) [Choice α] (v : Value) : Prop where
  ofBool : ∀ b, v = .bool b → resolve v = .ok (unspecified : α)
  ofInt : ∀ n, v = .int n → ∃ m : α, resolve v = .ok m ∧ CodeOf n m
  ofNumeral : ∀ s neg ds, v = .str s → IsNumeral ds →
    Text.upperName (Text.trim s) = integerText neg ds → ds.length ≤ 4300 →
    resolve v = resolve (α := α) (.int (integerValue neg ds))
  ofLongNumeral : ∀ s neg ds, v = .str s → IsNumeral ds →
    Text.upperName (Text.trim s) = integerText neg ds → 4300 < ds.length →
    resolve (α := α) v = .error (.tooManyDigits ds.length)
  ofName : ∀ s, v = .str s →
    (∀ neg ds, IsNumeral ds → Text.upperName (Text.trim s) ≠ integerText neg ds) →
    ∃ m : α, resolve v = .ok m ∧ NameOf (Text.upperName (Text.trim s)) m
  ofOther : v = .null ∨ (∃ x, v = .float x) ∨ (∃ items, v = .arr items) ∨
    (∃ fields, v = .obj fields) → resolve v = .ok (unspecified : α)

theorem resolve_numeral {s : String} {neg : Bool} {ds : List Char} (numeral : IsNumeral ds)
    (form : Text.upperName (Text.trim s) = integerText neg ds) :
    resolve (α := α) (.str s) =
      if 4300 < ds.length then .error (.tooManyDigits ds.length)
      else resolve (.int (integerValue neg ds)) := by
  have named : isIntegerName (Text.upperName (Text.trim s)) = true :=
    (Text.isIntegerName_iff _).mpr ⟨neg, ds, numeral, form⟩
  have read := Text.readInt_integerText neg numeral
  rw [← form] at read
  by_cases long : 4300 < ds.length
  · have refused : Cinema.Text.readInt (Text.upperName (Text.trim s)) =
        .error (.tooManyDigits ds.length) := by
      rw [read, if_pos (show Cinema.Text.maxDigits < ds.length from long)]
    simp only [resolve, named, if_true, refused, if_pos long]
  · have reads : Cinema.Text.readInt (Text.upperName (Text.trim s)) =
        .ok (integerValue neg ds) := by
      rw [read, if_neg (show ¬Cinema.Text.maxDigits < ds.length from long)]
    simp only [resolve, named, if_true, reads, if_neg long]

theorem resolve_name {s : String} (unnamed : isIntegerName (Text.upperName (Text.trim s)) = false) :
    resolve (α := α) (.str s) = .ok ((ofName? (Text.upperName (Text.trim s))).getD unspecified) := by
  simp only [resolve, unnamed, Bool.false_eq_true, if_false]

variable (complete : Complete α)
include complete

theorem resolves (v : Value) : Resolves α v where
  ofBool := by
    rintro b rfl
    rfl
  ofInt := by
    rintro n rfl
    exact ⟨_, rfl, codeOf_ofCode? complete n⟩
  ofNumeral := by
    rintro s neg ds rfl numeral form short
    rw [resolve_numeral numeral form, if_neg (by omega)]
  ofLongNumeral := by
    rintro s neg ds rfl numeral form long
    rw [resolve_numeral numeral form, if_pos long]
  ofName := by
    rintro s rfl other
    have unnamed : isIntegerName (Text.upperName (Text.trim s)) = false := by
      cases named : isIntegerName (Text.upperName (Text.trim s)) with
      | false => rfl
      | true =>
        obtain ⟨neg, ds, numeral, form⟩ := (Text.isIntegerName_iff _).mp named
        exact absurd form (other neg ds numeral)
    exact ⟨_, resolve_name unnamed, nameOf_ofName? complete _⟩
  ofOther := by
    rintro (rfl | ⟨x, rfl⟩ | ⟨items, rfl⟩ | ⟨fields, rfl⟩) <;> rfl

end Choice

/-! ## The three choices of the wire -/

theorem Gender.complete : Choice.Complete Gender := by
  intro m
  cases m <;> decide

theorem SortOrder.complete : Choice.Complete SortOrder := by
  intro m
  cases m <;> decide

theorem Monetization.complete : Choice.Complete Monetization := by
  intro m
  cases m <;> decide

theorem SortOrder.providerKey?_eq_none_iff (o : SortOrder) :
    o.providerKey? = none ↔ o = .unspecified := by
  cases o <;> simp [SortOrder.providerKey?]

theorem Monetization.providerKey?_eq_none_iff (w : Monetization) :
    w.providerKey? = none ↔ w = .unspecified := by
  cases w <;> simp [Monetization.providerKey?]

/-- How every loose value resolves to a gender, an order of discovery and a way to watch: a
boolean to member `0`; an integer to the member with its code, else member `0`; a text whose
trimmed capital form is a minus sign or none and at most 4300 ASCII digits to what the integer
it writes resolves to; a longer such text to the fault of its length; any other text to the
member of that name, else member `0`; and `null`, doubles, lists and objects to member `0`.
Member `0` of an order or a way to watch is exactly the one without a provider spelling, so
every value that names no member is sent as nothing. -/
theorem wire_choices_resolve_by_kind (v : Value) :
    Choice.Resolves Gender v ∧ Choice.Resolves SortOrder v ∧ Choice.Resolves Monetization v ∧
    (∀ o : SortOrder, o.providerKey? = none ↔ o = .unspecified) ∧
    (∀ w : Monetization, w.providerKey? = none ↔ w = .unspecified) :=
  ⟨Choice.resolves Gender.complete v, Choice.resolves SortOrder.complete v,
    Choice.resolves Monetization.complete v, SortOrder.providerKey?_eq_none_iff,
    Monetization.providerKey?_eq_none_iff⟩

example : Choice.resolve (α := SortOrder) (.str " 0002 ") = Choice.resolve (.int 2) := by rfl

example : Choice.resolve (α := SortOrder) (.str "+2") = .ok .unspecified := by rfl

example : Choice.resolve (α := Monetization) (.str "fRee") = .ok .free := by rfl

/-- An order written as a one and 4300 zeros names no order, yet it is not resolved to member `0`:
the integer reader refuses it for its 4301 digits. -/
theorem long_numeral_order_is_refused :
    Choice.resolve (α := SortOrder) (.str (integerText false ('1' :: List.replicate 4300 '0'))) =
      .error (.tooManyDigits 4301) := by
  have numeral : IsNumeral ('1' :: List.replicate 4300 '0') := by
    refine ⟨List.cons_ne_nil _ _, fun c mem => ?_⟩
    rcases List.mem_cons.mp mem with rfl | zero
    · rfl
    · rw [(List.mem_replicate.mp zero).2]
      rfl
  have refused := (Choice.resolves SortOrder.complete _).ofLongNumeral _ false _ rfl numeral
    (Text.upperName_trim_integerText false numeral)
    (by rw [List.length_cons, List.length_replicate]; omega)
  rwa [List.length_cons, List.length_replicate] at refused

end Cinema.Catalog
