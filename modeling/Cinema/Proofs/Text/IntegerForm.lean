import Mathlib.Data.List.TakeWhile
import Cinema.Proofs.Calendar.TimestampForm

/-!
# Integers written as text

`Text.readInt` reads the integer of a text as the identity header and the choice codes are read.
Its grammar is `IntegerForm`: white space, one sign or none, a decimal digit of any script and
what may follow it in a run of digits (`DigitTail`: more digits, each alone or after a single
underscore), white space. A text reads as an integer exactly when it has that form with at most
4300 digits, and it reads as the value of its digits, negated after a minus sign
(`readInt_eq_ok_iff`).

The reader is followed one stage at a time: the white space in front (`readInt_dropWhile`), the
sign (`readInt_signed_digit`), and the run of digits, which `digitRun` reads exactly when it has
the shape `DigitTail` describes (`digitRun_of_digitTail`, `digitTail_of_digitRun`).
-/

set_option autoImplicit false
set_option relaxedAutoImplicit false

namespace Cinema.Text

/-! ## Decimal digits -/

theorem digitZeros_plain :
    ∀ z ∈ digitZeros, ∀ k < 10, isWhiteSpace (Char.ofNat (z + k)) = false ∧
      Char.ofNat (z + k) ≠ '-' ∧ Char.ofNat (z + k) ≠ '+' ∧ Char.ofNat (z + k) ≠ '_' := by
  decide +kernel

theorem digit_plain {c : Char} (digit : isAnyDigit c = true) :
    isWhiteSpace c = false ∧ c ≠ '-' ∧ c ≠ '+' ∧ c ≠ '_' := by
  obtain ⟨v, read⟩ := Option.isSome_iff_exists.mp digit
  obtain ⟨z, listed, low, high, -⟩ := digitValue?_eq_some read
  have same : Char.ofNat (z + (c.toNat - z)) = c := by
    rw [Nat.add_sub_cancel' low, Char.ofNat_toNat]
  rw [← same]
  exact digitZeros_plain z listed _ (by omega)

theorem plain_of_white {c : Char} (white : isWhiteSpace c = true) :
    isAnyDigit c = false ∧ c ≠ '_' := by
  refine ⟨?_, ?_⟩
  · cases digit : isAnyDigit c with
    | false => rfl
    | true => exact absurd white (by rw [(digit_plain digit).1]; decide)
  · rintro rfl
    exact absurd white (by decide)

/-! ## Runs of digits -/

/-- `DigitTail cs ds`: the characters `cs` may follow a decimal digit in the text of an integer,
and hold the digits `ds`: decimal digits of any script, each alone or after a single
underscore. -/
inductive DigitTail : List Char → List Char → Prop
  | nil : DigitTail [] []
  | digit {d : Char} {cs ds : List Char} (digit : isAnyDigit d = true) (tail : DigitTail cs ds) :
      DigitTail (d :: cs) (d :: ds)
  | underscore {d : Char} {cs ds : List Char} (digit : isAnyDigit d = true)
      (tail : DigitTail cs ds) : DigitTail ('_' :: d :: cs) (d :: ds)

/-- A text that may follow a run of digits: empty, or starting with neither a digit nor an
underscore. -/
def EndsRun (rest : List Char) : Prop := ∀ c ∈ rest.head?, isAnyDigit c = false ∧ c ≠ '_'

theorem digitRun_digit {d : Char} (digit : isAnyDigit d = true) (r acc : List Char) :
    digitRun (d :: r) acc = digitRun r (d :: acc) := by
  rw [digitRun.eq_def]
  simp only [digit, if_true]

theorem digitRun_of_digitTail {cs ds : List Char} (tail : DigitTail cs ds) {rest : List Char}
    (ends : EndsRun rest) {acc : List Char} (started : acc ≠ []) :
    digitRun (cs ++ rest) acc = some (acc.reverse ++ ds, rest) := by
  induction tail generalizing acc with
  | nil =>
    cases rest with
    | nil => simp [digitRun]
    | cons c more =>
      obtain ⟨notDigit, notUnderscore⟩ := ends c rfl
      rw [List.nil_append, digitRun.eq_def]
      simp [notDigit, notUnderscore]
  | digit digit _ ih =>
    rw [List.cons_append, digitRun_digit digit, ih (List.cons_ne_nil _ _)]
    simp
  | underscore digit _ ih =>
    have notDigit : isAnyDigit '_' = false := by decide
    rw [List.cons_append, List.cons_append, digitRun.eq_def]
    simp only [notDigit, Bool.false_eq_true, if_false, beq_self_eq_true, true_and,
      List.isEmpty_eq_false_iff.mpr started, Bool.not_false, if_true, digit]
    rw [ih (List.cons_ne_nil _ _)]
    simp

theorem digitTail_of_digitRun {cs acc ds rest : List Char} (started : acc ≠ [])
    (run : digitRun cs acc = some (ds, rest)) :
    ∃ tail tds, cs = tail ++ rest ∧ DigitTail tail tds ∧ ds = acc.reverse ++ tds ∧
      EndsRun rest := by
  induction cs, acc using digitRun.induct generalizing ds rest with
  | case1 c more acc digit ih =>
    rw [digitRun_digit digit] at run
    obtain ⟨tail, tds, rfl, shape, rfl, ends⟩ := ih (List.cons_ne_nil _ _) run
    exact ⟨c :: tail, c :: tds, rfl, .digit digit shape, by simp, ends⟩
  | case2 c acc notDigit underscore d more digit ih =>
    rw [digitRun.eq_def] at run
    simp only [notDigit, Bool.false_eq_true, if_false, underscore, if_true, digit] at run
    obtain ⟨tail, tds, rfl, shape, rfl, ends⟩ := ih (List.cons_ne_nil _ _) run
    have isUnderscore : c = '_' := by simpa using underscore.1
    subst isUnderscore
    exact ⟨'_' :: d :: tail, d :: tds, rfl, .underscore digit shape, by simp, ends⟩
  | case3 c acc notDigit underscore d more notDigit' =>
    rw [digitRun.eq_def] at run
    simp only [notDigit, Bool.false_eq_true, if_false, underscore, notDigit'] at run
    cases run
  | case4 c acc notDigit underscore =>
    rw [digitRun.eq_def] at run
    simp only [notDigit, Bool.false_eq_true, if_false, underscore] at run
    cases run
  | case5 c more acc notDigit stops =>
    rw [digitRun.eq_def] at run
    simp only [notDigit, Bool.false_eq_true, if_false, stops] at run
    cases run
    -- the run ends here: `c` is no digit, and no underscore after a digit
    refine ⟨[], [], rfl, .nil, by simp, fun c' first => ?_⟩
    cases first
    refine ⟨by simpa using notDigit, fun same => stops ⟨by simp [same], ?_⟩⟩
    simpa using started
  | case6 acc =>
    simp only [digitRun, Option.some.injEq, Prod.mk.injEq] at run
    obtain ⟨rfl, rfl⟩ := run
    exact ⟨[], [], rfl, .nil, by simp, fun c first => by cases first⟩

/-! ## The reader, a stage at a time -/

theorem readInt_dropWhile (s : String) :
    readInt s = readInt (String.ofList (s.toList.dropWhile isWhiteSpace)) := by
  have again : (s.toList.dropWhile isWhiteSpace).dropWhile isWhiteSpace =
      s.toList.dropWhile isWhiteSpace := by
    apply dropWhile_of_head
    intro c first
    have stop := List.head?_dropWhile_not isWhiteSpace s.toList
    rw [first] at stop
    exact stop
  simp only [readInt, String.toList_ofList, again]

theorem readInt_nil : readInt (String.ofList []) = .error .malformed := by
  decide

theorem readInt_signed_digit {d : Char} (digit : isAnyDigit d = true) {sign : Char}
    (signChar : sign = '-' ∨ sign = '+') (r : List Char) :
    readInt (String.ofList (sign :: d :: r)) =
      (readInt (String.ofList (d :: r))).map (if sign = '-' then Neg.neg else id) := by
  obtain ⟨white, notMinus, notPlus, -⟩ := digit_plain digit
  have signs : isWhiteSpace '-' = false ∧ isWhiteSpace '+' = false ∧ ('+' : Char) ≠ '-' := by
    decide
  rcases signChar with rfl | rfl <;>
    simp only [readInt, String.toList_ofList, List.dropWhile_cons, white, signs, notMinus, notPlus,
      Bool.false_eq_true, if_false, List.cons.injEq, false_and, imp_false, not_false_eq_true,
      forall_const, digit, Bool.not_true, if_true]
  all_goals
    rcases digitRun (d :: r) [] with _ | ⟨ds, rest⟩
    · rfl
    · dsimp only
      split_ifs <;> rfl

theorem readInt_signed_not_digit {sign : Char} (signChar : sign = '-' ∨ sign = '+')
    {body : List Char} (notDigit : ∀ c ∈ body.head?, isAnyDigit c = false) :
    readInt (String.ofList (sign :: body)) = .error .malformed := by
  have signs : isWhiteSpace '-' = false ∧ isWhiteSpace '+' = false := by decide
  cases body with
  | nil => rcases signChar with rfl | rfl <;> decide
  | cons c more =>
    have first : isAnyDigit c = false := notDigit c rfl
    rcases signChar with rfl | rfl <;>
      simp only [readInt, String.toList_ofList, List.dropWhile_cons, signs, Bool.false_eq_true,
        if_false, first, Bool.not_false, if_true]

theorem readInt_signed_eq_ok {sign : Char} (signChar : sign = '-' ∨ sign = '+') {r : List Char}
    {n : Int} (read : readInt (String.ofList (sign :: r)) = .ok n) :
    ∃ d rest m, r = d :: rest ∧ isAnyDigit d = true ∧
      readInt (String.ofList (d :: rest)) = .ok m ∧
        n = (if sign = '-' then Neg.neg else id) m := by
  cases r with
  | nil =>
    rw [readInt_signed_not_digit signChar (fun _ first => by cases first)] at read
    cases read
  | cons d rest =>
    cases digit : isAnyDigit d with
    | false =>
      rw [readInt_signed_not_digit signChar (fun _ first => by cases first; exact digit)] at read
      cases read
    | true =>
      rw [readInt_signed_digit digit signChar] at read
      cases unsigned : readInt (String.ofList (d :: rest)) with
      | error e =>
        rw [unsigned] at read
        cases read
      | ok m =>
        rw [unsigned] at read
        cases read
        exact ⟨d, rest, m, rfl, digit, unsigned, rfl⟩

theorem readInt_unsigned_not_digit {c : Char} (white : isWhiteSpace c = false)
    (notMinus : c ≠ '-') (notPlus : c ≠ '+') (notDigit : isAnyDigit c = false) (r : List Char) :
    readInt (String.ofList (c :: r)) = .error .malformed := by
  simp only [readInt, String.toList_ofList, List.dropWhile_cons, white, Bool.false_eq_true,
    if_false, notMinus, notPlus, List.cons.injEq, false_and, imp_false, not_false_eq_true,
    forall_const, notDigit, Bool.not_false, if_true]

/-- A text that starts with a digit reads as an integer exactly when the digits run on, with
single underscores between them, up to white space that ends the text, and are at most 4300;
it reads as their value. -/
theorem readInt_digit_eq_ok_iff {d : Char} (digit : isAnyDigit d = true) (r : List Char)
    (n : Int) :
    readInt (String.ofList (d :: r)) = .ok n ↔
      ∃ tail tds trail, r = tail ++ trail ∧ DigitTail tail tds ∧
        (∀ c ∈ trail, isWhiteSpace c = true) ∧ tds.length + 1 ≤ maxDigits ∧
        n = anyDigitsValue (d :: tds) := by
  obtain ⟨white, notMinus, notPlus, -⟩ := digit_plain digit
  simp only [readInt, String.toList_ofList, List.dropWhile_cons, white, Bool.false_eq_true,
    if_false, notMinus, notPlus, List.cons.injEq, false_and, imp_false, not_false_eq_true,
    forall_const, digit, Bool.not_true, digitRun_digit digit]
  constructor
  · intro read
    cases run : digitRun r [d] with
    | none =>
      rw [run] at read
      cases read
    | some result =>
      obtain ⟨ds, rest⟩ := result
      obtain ⟨tail, tds, rfl, shape, rfl, -⟩ := digitTail_of_digitRun (List.cons_ne_nil _ _) run
      rw [run] at read
      dsimp only at read
      split_ifs at read with long ends
      cases read
      refine ⟨tail, tds, rest, rfl, shape, ?_, ?_, rfl⟩
      · simpa [List.dropWhile_eq_nil_iff] using ends
      · simp only [List.reverse_cons, List.reverse_nil, List.nil_append, List.length_append,
          List.length_singleton, gt_iff_lt, not_lt] at long
        omega
  · rintro ⟨tail, tds, trail, rfl, shape, whiteTrail, count, rfl⟩
    have ends : EndsRun trail := fun c first =>
      plain_of_white (whiteTrail c (List.mem_of_mem_head? first))
    rw [digitRun_of_digitTail shape ends (List.cons_ne_nil _ _)]
    have short : ¬([d].reverse ++ tds).length > maxDigits := by
      simp only [List.reverse_cons, List.reverse_nil, List.nil_append, List.length_append,
        List.length_singleton, gt_iff_lt, not_lt]
      omega
    have blank : (trail.dropWhile isWhiteSpace).isEmpty = true := by
      simpa [List.dropWhile_eq_nil_iff] using whiteTrail
    dsimp only
    rw [if_neg short, if_pos blank]
    rfl

/-! ## The grammar -/

/-- The text of an integer: white space, one sign or none, a decimal digit of any script and what
may follow it in a run of digits, white space. -/
structure IntegerForm where
  lead : List Char
  sign : List Char
  first : Char
  tail : List Char
  digits : List Char
  trail : List Char
  lead_white : ∀ c ∈ lead, isWhiteSpace c = true
  sign_one : sign = [] ∨ sign = ['+'] ∨ sign = ['-']
  first_digit : isAnyDigit first = true
  tail_digits : DigitTail tail digits
  trail_white : ∀ c ∈ trail, isWhiteSpace c = true

namespace IntegerForm

def chars (f : IntegerForm) : List Char := f.lead ++ f.sign ++ f.first :: f.tail ++ f.trail

def digitCount (f : IntegerForm) : Nat := f.digits.length + 1

def value (f : IntegerForm) : Int :=
  if f.sign = ['-'] then -(anyDigitsValue (f.first :: f.digits) : Int)
  else anyDigitsValue (f.first :: f.digits)

end IntegerForm

/-- A text reads as an integer exactly when it is the text of an integer with at most 4300
digits, and then it reads as the integer that text writes. -/
theorem readInt_eq_ok_iff (s : String) (n : Int) :
    readInt s = .ok n ↔
      ∃ f : IntegerForm, s.toList = f.chars ∧ f.digitCount ≤ maxDigits ∧ f.value = n := by
  constructor
  · intro read
    rw [readInt_dropWhile] at read
    obtain ⟨lead, white, split⟩ : ∃ lead, (∀ c ∈ lead, isWhiteSpace c = true) ∧
        s.toList = lead ++ s.toList.dropWhile isWhiteSpace :=
      ⟨_, fun c mem => List.all_eq_true.mp List.all_takeWhile c mem,
        List.takeWhile_append_dropWhile.symm⟩
    have front := List.head?_dropWhile_not isWhiteSpace s.toList
    generalize s.toList.dropWhile isWhiteSpace = cs at read split front
    cases cs with
    | nil =>
      rw [readInt_nil] at read
      cases read
    | cons c r =>
      have notWhite : isWhiteSpace c = false := front
      by_cases signChar : c = '-' ∨ c = '+'
      · -- a sign, which a digit must follow
        obtain ⟨d, r, m, rfl, digit, unsigned, rfl⟩ := readInt_signed_eq_ok signChar read
        obtain ⟨tail, tds, trail, rfl, shape, whiteTrail, count, rfl⟩ :=
          (readInt_digit_eq_ok_iff digit r m).mp unsigned
        have oneSign : [c] = [] ∨ [c] = ['+'] ∨ [c] = ['-'] := by
          rcases signChar with rfl | rfl <;> simp
        refine ⟨⟨lead, [c], d, tail, tds, trail, white, oneSign, digit, shape, whiteTrail⟩,
          by simp [IntegerForm.chars, split], count, ?_⟩
        by_cases minus : c = '-' <;> simp [IntegerForm.value, minus]
      · -- no sign: the text starts with its first digit
        have notMinus : c ≠ '-' := fun same => signChar (.inl same)
        have notPlus : c ≠ '+' := fun same => signChar (.inr same)
        cases digit : isAnyDigit c with
        | false =>
          rw [readInt_unsigned_not_digit notWhite notMinus notPlus digit] at read
          cases read
        | true =>
          obtain ⟨tail, tds, trail, rfl, shape, whiteTrail, count, rfl⟩ :=
            (readInt_digit_eq_ok_iff digit r n).mp read
          exact ⟨⟨lead, [], c, tail, tds, trail, white, .inl rfl, digit, shape, whiteTrail⟩,
            by simp [IntegerForm.chars, split], count, by simp [IntegerForm.value]⟩
  · rintro ⟨f, chars, count, rfl⟩
    have dropped : s.toList.dropWhile isWhiteSpace = f.sign ++ f.first :: (f.tail ++ f.trail) := by
      rw [chars, IntegerForm.chars]
      simp only [List.append_assoc, List.cons_append]
      rw [List.dropWhile_append_of_pos f.lead_white]
      apply dropWhile_of_head
      intro c first
      rcases f.sign_one with h | h | h <;> rw [h] at first <;> cases first
      · exact (digit_plain f.first_digit).1
      · decide
      · decide
    have unsigned : readInt (String.ofList (f.first :: (f.tail ++ f.trail))) =
        .ok (anyDigitsValue (f.first :: f.digits)) :=
      (readInt_digit_eq_ok_iff f.first_digit _ _).mpr
        ⟨f.tail, f.digits, f.trail, rfl, f.tail_digits, f.trail_white, count, rfl⟩
    rw [readInt_dropWhile, dropped, IntegerForm.value]
    rcases f.sign_one with h | h | h <;> rw [h]
    · rw [List.nil_append, unsigned]
      rfl
    · rw [List.singleton_append, readInt_signed_digit f.first_digit (.inr rfl), unsigned]
      rfl
    · rw [List.singleton_append, readInt_signed_digit f.first_digit (.inl rfl), unsigned]
      rfl

end Cinema.Text
