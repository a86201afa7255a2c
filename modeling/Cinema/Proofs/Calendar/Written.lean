import Mathlib.Data.Nat.Digits.Defs
import Cinema.Proofs.Catalog.Choices
import Cinema.Calendar.Read

/-!
# Numbers written in a fixed number of digits

Dates and times are written with `Moment.padded`: a number in decimal, with zeros in front up to a
width. The calendar reads digits with `Text.anyDigitsValue`, which takes a decimal digit of any
script; on ASCII digits it reads as core's `Nat.ofDigitChars` does. Writing and reading are
inverse on fixed-width fields: a padded numeral reads as its number (`anyDigitsValue_padded`), and
every nonempty run of ASCII digits is the padded numeral of the number it writes
(`padded_anyDigitsValue`). Below code point 128 the only decimal digits are the ASCII ones
(`isDigit_of_isAnyDigit`), so for ASCII text the reader of any script reads what an ASCII reader
would.

`Date.text` is the `YYYY-MM-DD` form of a date, as a moment's text writes it.
-/

set_option autoImplicit false
set_option relaxedAutoImplicit false

namespace Cinema

namespace Text

/-- A decimal digit lies in the run of ten code points that starts at the zero of its script. -/
theorem digitValue?_eq_some {c : Char} {v : Nat} (read : digitValue? c = some v) :
    ∃ z ∈ digitZeros, z ≤ c.toNat ∧ c.toNat < z + 10 ∧ v = c.toNat - z := by
  unfold digitValue? at read
  obtain ⟨z, found, rfl⟩ := Option.map_eq_some_iff.mp read
  have inRun := List.find?_some found
  simp only [decide_eq_true_eq] at inRun
  exact ⟨z, List.mem_of_find?_eq_some found, inRun.1, inRun.2, rfl⟩

theorem digitValue?_lt {c : Char} {v : Nat} (read : digitValue? c = some v) : v < 10 := by
  obtain ⟨z, -, low, high, rfl⟩ := digitValue?_eq_some read
  omega

theorem isDigit_of_isAnyDigit {c : Char} (ascii : c.toNat < 128) (digit : isAnyDigit c = true) :
    c.isDigit = true := by
  obtain ⟨v, read⟩ := Option.isSome_iff_exists.mp digit
  obtain ⟨z, listed, low, high, -⟩ := digitValue?_eq_some read
  have first : z = 0x30 := by
    simp only [digitZeros, List.mem_cons, List.not_mem_nil, or_false] at listed
    omega
  rw [Char.isDigit_iff_toNat]
  simp only [Char.reduceToNat]
  omega

theorem digit_sub_lt {c : Char} (digit : c.isDigit = true) : c.toNat - 48 < 10 := by
  have range := Char.isDigit_iff_toNat.mp digit
  simp only [Char.reduceToNat] at range
  omega

theorem foldl_digits {ds : List Char} (digits : ∀ c ∈ ds, c.isDigit = true) (acc : Nat) :
    ds.foldl (fun acc c => 10 * acc + (digitValue? c).getD 0) acc = Nat.ofDigitChars 10 ds acc := by
  induction ds generalizing acc with
  | nil => rfl
  | cons c rest ih =>
    rw [List.foldl_cons, Nat.ofDigitChars_cons, digitValue?_of_isDigit c (digits c (by simp)),
      Option.getD_some]
    exact ih (fun d mem => digits d (by simp [mem])) _

theorem anyDigitsValue_eq_ofDigitChars {ds : List Char} (digits : ∀ c ∈ ds, c.isDigit = true) :
    anyDigitsValue ds = Nat.ofDigitChars 10 ds 0 :=
  foldl_digits digits 0

theorem anyDigitsValue_append_zeros {ds : List Char} (digits : ∀ c ∈ ds, c.isDigit = true)
    (k : Nat) : anyDigitsValue (ds ++ List.replicate k '0') = anyDigitsValue ds * Nat.pow 10 k := by
  have zeros : ∀ c ∈ List.replicate k '0', c.isDigit = true := by
    intro c mem
    rw [List.eq_of_mem_replicate mem]
    rfl
  rw [anyDigitsValue_eq_ofDigitChars (List.forall_mem_append.mpr ⟨digits, zeros⟩),
    anyDigitsValue_eq_ofDigitChars digits, Nat.ofDigitChars_append,
    Nat.ofDigitChars_replicate_zero, Nat.mul_comm, Nat.pow_eq]

theorem eq_of_anyDigitsValue_eq {ds es : List Char} (len : ds.length = es.length)
    (dsDigits : ∀ c ∈ ds, c.isDigit = true) (esDigits : ∀ c ∈ es, c.isDigit = true)
    (same : anyDigitsValue ds = anyDigitsValue es) : ds = es := by
  rw [Catalog.Text.anyDigitsValue_eq_ofDigits ds dsDigits,
    Catalog.Text.anyDigitsValue_eq_ofDigits es esDigits] at same
  have back : ∀ l : List Char, (∀ c ∈ l, c.isDigit = true) →
      (l.map fun c => c.toNat - 48).map (fun k => Char.ofNat (k + 48)) = l := by
    intro l digits
    rw [List.map_map]
    conv => rhs; rw [← List.map_id l]
    apply List.map_congr_left
    intro c mem
    have range := Char.isDigit_iff_toNat.mp (digits c mem)
    simp only [Char.reduceToNat] at range
    simp only [Function.comp_apply, id]
    rw [Nat.sub_add_cancel range.1, Char.ofNat_toNat]
  have small : ∀ l : List Char, (∀ c ∈ l, c.isDigit = true) →
      ∀ k ∈ l.map (fun c => c.toNat - 48), k < 10 := by
    intro l digits k mem
    obtain ⟨c, listed, rfl⟩ := List.mem_map.mp mem
    exact digit_sub_lt (digits c listed)
  have values := Nat.ofDigits_inj_of_len_eq (by decide) (by simp [len])
    (small _ fun c mem => dsDigits c (List.mem_reverse.mp mem))
    (small _ fun c mem => esDigits c (List.mem_reverse.mp mem)) same
  have reversed : ds.reverse = es.reverse := by
    rw [← back ds.reverse fun c mem => dsDigits c (List.mem_reverse.mp mem), values,
      back es.reverse fun c mem => esDigits c (List.mem_reverse.mp mem)]
  exact List.reverse_inj.mp reversed

end Text

namespace Calendar

open Cinema.Text

/-! ## Padded numerals -/

theorem padded_toList (w n : Nat) :
    (Moment.padded w n).toList =
      List.replicate (w - (Nat.toDigits 10 n).length) '0' ++ Nat.toDigits 10 n := by
  simp [Moment.padded]

theorem isDigit_of_mem_padded {w n : Nat} {c : Char} (mem : c ∈ (Moment.padded w n).toList) :
    c.isDigit = true := by
  rw [padded_toList, List.mem_append, List.mem_replicate] at mem
  rcases mem with ⟨-, rfl⟩ | mem
  · rfl
  · exact Nat.isDigit_of_mem_toDigits (by decide) (by decide) mem

theorem anyDigitsValue_padded (w n : Nat) : anyDigitsValue (Moment.padded w n).toList = n := by
  rw [anyDigitsValue_eq_ofDigitChars fun c mem => isDigit_of_mem_padded mem, padded_toList,
    Nat.ofDigitChars_append, Nat.ofDigitChars_replicate_zero, Nat.mul_zero,
    Nat.ofDigitChars_ten_toDigits]

theorem length_padded {w n : Nat} (fits : (Nat.toDigits 10 n).length ≤ w) :
    (Moment.padded w n).toList.length = w := by
  rw [padded_toList, List.length_append, List.length_replicate]
  omega

theorem padded_two {n : Nat} (small : n < 100) :
    (Moment.padded 2 n).toList = [Nat.digitChar (n / 10), Nat.digitChar (n % 10)] := by
  rw [padded_toList, Nat.toDigits_eq_if (by decide)]
  split
  · simp [Nat.div_eq_of_lt ‹n < 10›, Nat.mod_eq_of_lt ‹n < 10›]
  · rw [Nat.toDigits_of_lt_base (show n / 10 < 10 by omega)]
    simp

theorem length_padded_of_lt {w n : Nat} (wide : 0 < w) (small : n < Nat.pow 10 w) :
    (Moment.padded w n).toList.length = w :=
  length_padded ((Nat.length_toDigits_le_iff (by decide) wide).mpr small)

theorem anyDigitsValue_lt_pow {ds : List Char} (digits : ∀ c ∈ ds, c.isDigit = true) :
    anyDigitsValue ds < Nat.pow 10 ds.length := by
  rw [Catalog.Text.anyDigitsValue_eq_ofDigits ds digits]
  have bound := Nat.ofDigits_lt_base_pow_length (b := 10) (by decide)
    (l := ds.reverse.map fun c => c.toNat - 48) (by
      intro k mem
      obtain ⟨c, listed, rfl⟩ := List.mem_map.mp mem
      exact digit_sub_lt (digits c (List.mem_reverse.mp listed)))
  simpa using bound

theorem padded_anyDigitsValue {ds : List Char} (nonempty : ds ≠ [])
    (digits : ∀ c ∈ ds, c.isDigit = true) :
    (Moment.padded ds.length (anyDigitsValue ds)).toList = ds := by
  have fits : (Nat.toDigits 10 (anyDigitsValue ds)).length ≤ ds.length :=
    (Nat.length_toDigits_le_iff (by decide) (List.length_pos_iff.mpr nonempty)).mpr
      (anyDigitsValue_lt_pow digits)
  exact eq_of_anyDigitsValue_eq (length_padded fits) (fun c mem => isDigit_of_mem_padded mem)
    digits (anyDigitsValue_padded _ _)

theorem asciiValue?_eq_some_iff (cs : List Char) (v : Nat) :
    asciiValue? cs = some v ↔ (∀ c ∈ cs, c.isDigit = true) ∧ anyDigitsValue cs = v := by
  unfold asciiValue?
  split
  · rename_i digits
    simp only [List.all_eq_true] at digits
    rw [Option.some.injEq]
    exact ⟨fun read => ⟨digits, read⟩, fun ⟨_, read⟩ => read⟩
  · rename_i notDigits
    simp only [List.all_eq_true] at notDigits
    exact ⟨fun h => (nomatch h), fun ⟨digits, _⟩ => absurd digits notDigits⟩

theorem padded_of_asciiValue? {cs : List Char} {v w : Nat} (read : asciiValue? cs = some v)
    (len : cs.length = w) (wide : 0 < w) :
    (Moment.padded w v).toList = cs ∧ v < Nat.pow 10 w := by
  obtain ⟨digits, rfl⟩ := (asciiValue?_eq_some_iff cs v).mp read
  subst len
  exact ⟨padded_anyDigitsValue (List.length_pos_iff.mp wide) digits,
    anyDigitsValue_lt_pow digits⟩

theorem asciiValue?_padded (w n : Nat) : asciiValue? (Moment.padded w n).toList = some n :=
  (asciiValue?_eq_some_iff _ _).mpr
    ⟨fun _ mem => isDigit_of_mem_padded mem, anyDigitsValue_padded w n⟩

/-! ## Dates -/

/-- A date written `YYYY-MM-DD`, each part padded with zeros, as a moment's text writes it. -/
def Date.text (d : Date) : String :=
  Moment.padded 4 d.year.toNat ++ "-" ++ Moment.padded 2 d.month ++ "-" ++ Moment.padded 2 d.day

theorem Date.text_toList (d : Date) :
    d.text.toList = (Moment.padded 4 d.year.toNat).toList ++ '-' ::
      ((Moment.padded 2 d.month).toList ++ '-' :: (Moment.padded 2 d.day).toList) := by
  simp [Date.text]

theorem Date.bounds_of_isValid {d : Date} (valid : d.isValid = true) :
    1 ≤ d.month ∧ d.month ≤ 12 ∧ 1 ≤ d.day ∧ d.day ≤ 31 := by
  simp only [Date.isValid, Bool.and_eq_true, decide_eq_true_eq] at valid
  have longest : monthLength d.year d.month ≤ 31 := by
    unfold monthLength
    split <;> (try split) <;> omega
  omega

/-- The text of a date that exists in the years 1 to 9999 is ten characters: four ASCII digits
of the year, a dash, the two digits of the month, a dash and the two of the day. -/
theorem Date.text_toList_eq {d : Date} (valid : d.isValid = true) (inRange : d.inRange = true) :
    ∃ y1 y2 y3 y4 : Char, (Moment.padded 4 d.year.toNat).toList = [y1, y2, y3, y4] ∧
      d.text.toList = [y1, y2, y3, y4, '-', Nat.digitChar (d.month / 10),
        Nat.digitChar (d.month % 10), '-', Nat.digitChar (d.day / 10),
        Nat.digitChar (d.day % 10)] := by
  have months := Date.bounds_of_isValid valid
  simp only [Date.inRange, Bool.and_eq_true, decide_eq_true_eq] at inRange
  obtain ⟨y1, y2, y3, y4, yearChars⟩ : ∃ y1 y2 y3 y4,
      (Moment.padded 4 d.year.toNat).toList = [y1, y2, y3, y4] := by
    have four := length_padded_of_lt (w := 4) (by decide) (show d.year.toNat < 10000 by omega)
    match (Moment.padded 4 d.year.toNat).toList, four with
    | [y1, y2, y3, y4], _ => exact ⟨y1, y2, y3, y4, rfl⟩
  refine ⟨y1, y2, y3, y4, yearChars, ?_⟩
  rw [Date.text_toList, yearChars, padded_two (show d.month < 100 by omega),
    padded_two (show d.day < 100 by omega)]
  rfl

theorem isDigit_digitChar_div_mod {n : Nat} (small : n < 100) :
    (Nat.digitChar (n / 10)).isDigit = true ∧ (Nat.digitChar (n % 10)).isDigit = true := by
  simp only [Nat.isDigit_digitChar, decide_eq_true_eq]
  omega

end Calendar

end Cinema
