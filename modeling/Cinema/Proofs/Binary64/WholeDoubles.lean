import Cinema.Proofs.Binary64.Unpacked
import Cinema.Proofs.Binary64.Overflow

/-!
# Whole doubles

`Binary64.wholeValue?` gives `n` exactly when the exact value of a double, as Lean's model of
floats reads it, is the integer `n` (`wholeValue?_eq_some_iff`). Back the other way, the integer
of a whole double converts to a double `==` to it (`ofInt?_wholeValue?`): away from zero the
double itself, since its integer is a 53-bit mantissa times a power of two, which rounding leaves
alone; negative zero gives positive zero. Converting an integer never gives an infinity or
not-a-number (`ofInt?_finite`).
-/

set_option autoImplicit false
set_option relaxedAutoImplicit false

namespace Cinema.Binary64

/-! ## When a double's value is an integer -/

theorem natCast_eq_mul_iff {mant P : Nat} (pos : 0 < P) (m : Int) :
    (mant : Int) = m * P ↔ mant % P = 0 ∧ ((mant / P : Nat) : Int) = m := by
  constructor
  · intro eq
    have nonneg : 0 ≤ m := by
      by_contra negative
      have : m * P < 0 := Int.mul_neg_of_neg_of_pos (by omega) (by exact_mod_cast pos)
      omega
    obtain ⟨k, rfl⟩ := Int.eq_ofNat_of_zero_le nonneg
    have natEq : mant = k * P := by exact_mod_cast eq
    subst natEq
    exact ⟨Nat.mul_mod_left k P, by rw [Nat.mul_div_cancel k pos]⟩
  · rintro ⟨divides, rfl⟩
    exact_mod_cast (Nat.div_mul_cancel (Nat.dvd_of_mod_eq_zero divides)).symm

theorem unsigned_value_eq_iff (mant : Nat) (exp2 : Int) (m : Int) :
    (mant : ℚ) * 2 ^ exp2 = m ↔
      Parts.isWhole ⟨false, mant, exp2⟩ = true ∧ Parts.toInt ⟨false, mant, exp2⟩ = m := by
  rcases Int.eq_nat_or_neg exp2 with ⟨k, rfl | rfl⟩
  · -- a power of two at or above one: always whole
    simp only [Parts.isWhole, Parts.toInt, Int.natCast_nonneg, decide_true, Bool.true_or, if_true,
      Int.toNat_natCast, Bool.false_eq_true, if_false, true_and, zpow_natCast]
    rw [← Int.cast_inj (α := ℚ), Nat.pow_eq]
    push_cast
    rfl
  · rcases Nat.eq_zero_or_pos k with zero | pos
    · subst zero
      simp [Parts.isWhole, Parts.toInt, Nat.pow_eq]
      norm_cast
    · -- a power of two below one: whole exactly when it divides the mantissa
      have notNonneg : ¬ (0 : Int) ≤ -(k : Int) := by omega
      have back : (-(-(k : Int))).toNat = k := by omega
      have power : (0 : Nat) < Nat.pow 2 k := Nat.pow_pos (by decide)
      simp only [Parts.isWhole, Parts.toInt, notNonneg, decide_false, Bool.false_or, if_false,
        back, beq_iff_eq, Bool.false_eq_true]
      rw [zpow_neg, zpow_natCast, mul_inv_eq_iff_eq_mul₀ (pow_ne_zero k two_ne_zero),
        ← natCast_eq_mul_iff power m, Nat.pow_eq]
      constructor
      · intro eq
        exact_mod_cast eq
      · intro eq
        exact_mod_cast eq

theorem Parts.value_eq_intCast_iff (p : Parts) (n : Int) :
    p.value = n ↔ p.isWhole = true ∧ p.toInt = n := by
  obtain ⟨neg, mant, exp2⟩ := p
  have unsigned := unsigned_value_eq_iff mant exp2
  cases neg with
  | false => simpa [Parts.value] using unsigned n
  | true =>
    have flipped := unsigned (-n)
    simp only [Parts.value, if_true, neg_mul, Int.cast_neg] at flipped ⊢
    rw [neg_eq_iff_eq_neg, flipped]
    simp only [Parts.isWhole, Parts.toInt, Bool.false_eq_true, if_true, if_false]
    constructor <;> rintro ⟨whole, eq⟩ <;> exact ⟨whole, by omega⟩

theorem wholeValue?_eq_some_iff (x : Float) (n : Int) :
    wholeValue? x = some n ↔ value? x = some (n : ℚ) := by
  rw [value?_eq_map_parts]
  unfold wholeValue?
  cases parts? x with
  | none => simp
  | some p =>
    simp only [Option.map_some, Option.some.injEq, p.value_eq_intCast_iff]
    cases p.isWhole <;> simp

/-! ## Rounding leaves a whole double alone -/

theorem divRoundEven_mul (q : Nat) {d : Nat} (pos : 0 < d) : divRoundEven (q * d) d = q := by
  simp only [divRoundEven, Nat.mul_div_cancel q pos, Nat.mul_mod_left]
  split <;> omega

/-- The binary logarithm of `M * 2 ^ k`, for a 53-bit mantissa `M`, is `52 + k`, also when `k`
is negative and `2 ^ -k` divides `M`. -/
theorem log2_of_exact {N M : Nat} {k : Int} (norm : Nat.pow 2 52 ≤ M) (lt : M < Nat.pow 2 53)
    (exact : if 0 ≤ k then N = M * Nat.pow 2 k.toNat else N * Nat.pow 2 (-k).toNat = M) :
    (N.log2 : Int) = k + 52 := by
  rw [Nat.pow_eq] at norm lt
  split at exact
  next nonneg =>
    obtain ⟨K, rfl⟩ := Int.eq_ofNat_of_zero_le nonneg
    rw [Int.toNat_natCast, Nat.pow_eq] at exact
    have power : 0 < 2 ^ K := Nat.two_pow_pos K
    have nonzero : N ≠ 0 := by
      rw [exact]
      exact Nat.mul_ne_zero (Nat.pos_iff_ne_zero.mp (Nat.lt_of_lt_of_le (Nat.two_pow_pos 52) norm))
        (Nat.pos_iff_ne_zero.mp power)
    have log : N.log2 = 52 + K := by
      rw [Nat.log2_eq_iff nonzero, exact, show 52 + K + 1 = 53 + K by omega, Nat.pow_add,
        Nat.pow_add]
      exact ⟨Nat.mul_le_mul_right _ norm, Nat.mul_lt_mul_of_pos_right lt power⟩
    omega
  next negative =>
    obtain ⟨J, hJ⟩ : ∃ J : Nat, -k = J := ⟨(-k).toNat, by omega⟩
    rw [hJ, Int.toNat_natCast, Nat.pow_eq] at exact
    have nonzero : N ≠ 0 := by
      rintro rfl
      simp at exact
      omega
    -- the power cannot pass the mantissa's 53 bits
    have small : J ≤ 52 := by
      by_contra large
      have : 2 ^ 53 ≤ N * 2 ^ J :=
        Nat.le_trans (Nat.pow_le_pow_right (by decide) (by omega))
          (Nat.le_mul_of_pos_left _ (Nat.pos_of_ne_zero nonzero))
      omega
    have split52 : 2 ^ 52 = 2 ^ (52 - J) * 2 ^ J := by
      rw [← Nat.pow_add, Nat.sub_add_cancel small]
    have split53 : 2 ^ 53 = 2 ^ (53 - J) * 2 ^ J := by
      rw [← Nat.pow_add, Nat.sub_add_cancel (by omega)]
    have log : N.log2 = 52 - J := by
      rw [Nat.log2_eq_iff nonzero]
      have lower : 2 ^ (52 - J) * 2 ^ J ≤ N * 2 ^ J := by
        rw [← split52, exact]
        exact norm
      have upper : N * 2 ^ J < 2 ^ (53 - J) * 2 ^ J := by
        rw [← split53, exact]
        exact lt
      rw [show 52 - J + 1 = 53 - J by omega]
      exact ⟨Nat.le_of_mul_le_mul_right lower (Nat.two_pow_pos J),
        Nat.lt_of_mul_lt_mul_right upper⟩
    omega

/-- An integer that is a 53-bit mantissa `M` times a power of two `2 ^ k` within the range of
doubles rounds to exactly that double. -/
theorem nearestBits_exact {N M : Nat} {k : Int} (norm : Nat.pow 2 52 ≤ M) (lt : M < Nat.pow 2 53)
    (high : k ≤ maxExp)
    (exact : if 0 ≤ k then N = M * Nat.pow 2 k.toNat else N * Nat.pow 2 (-k).toNat = M) :
    nearestBits N 1 = some (assemble M k) := by
  have mantPos : 0 < M := Nat.lt_of_lt_of_le (Nat.pow_pos (by decide)) norm
  have nonzero : N ≠ 0 := by
    rintro rfl
    split at exact
    next =>
      have power : 0 < Nat.pow 2 k.toNat := Nat.pow_pos (by decide)
      exact Nat.mul_ne_zero (Nat.pos_iff_ne_zero.mp mantPos) (Nat.pos_iff_ne_zero.mp power)
        exact.symm
    next =>
      rw [Nat.zero_mul] at exact
      omega
  have log := log2_of_exact norm lt exact
  have exp : max (log2Ratio N 1 - 52) minExp = k := by
    rw [log2Ratio_one nonzero, log]
    simp only [minExp]
    omega
  -- the mantissa at that exponent is `M`, with nothing left over to round
  have mant : (if 0 ≤ k then divRoundEven N (1 * Nat.pow 2 k.toNat)
      else divRoundEven (N * Nat.pow 2 (-k).toNat) 1) = M := by
    split
    next nonneg =>
      rw [if_pos nonneg] at exact
      have power : 0 < Nat.pow 2 k.toNat := Nat.pow_pos (by decide)
      rw [exact, Nat.one_mul, divRoundEven_mul M power]
    next negative =>
      rw [if_neg negative] at exact
      rw [← Nat.mul_one (N * _), divRoundEven_mul _ Nat.one_pos, exact]
  have noCarry : M ≠ Nat.pow 2 53 := Nat.ne_of_lt lt
  unfold nearestBits
  simp only [nonzero, Nat.one_ne_zero, or_self, if_false]
  rw [exp, mant, if_neg noCarry]
  simp only [gt_iff_lt, Int.not_lt.mpr high, if_false]

/-! ## Putting a double together again -/

theorem assemble_toNat {M : Nat} {k : Int} (norm : Nat.pow 2 52 ≤ M) (lt : M < Nat.pow 2 53)
    (range : (k + 1075).toNat < 2048) :
    (assemble M k).toNat = (k + 1075).toNat * 4503599627370496 + (M - 4503599627370496) := by
  rw [twoPow52_eq] at norm
  rw [twoPow53_eq] at lt
  unfold assemble
  rw [if_neg (by rw [twoPow52_eq]; omega), twoPow52_eq]
  simp only [UInt64.toNat_or, UInt64.toNat_shiftLeft, Nat.toUInt64, UInt64.toNat_ofNat']
  have small : M - 4503599627370496 < 2 ^ 52 := by omega
  rw [Nat.mod_eq_of_lt (by omega : (k + 1075).toNat < 2 ^ 64),
    Nat.mod_eq_of_lt (by omega : M - 4503599627370496 < 2 ^ 64),
    show (UInt64.toNat 52 % 64) = 52 by rfl, Nat.mod_eq_of_lt (by rw [Nat.shiftLeft_eq]; omega),
    ← Nat.shiftLeft_add_eq_or_of_lt small, Nat.shiftLeft_eq]

theorem withSign_toNat (neg : Bool) {b : UInt64} (lt : b.toNat < 9223372036854775808) :
    (withSign neg b).toNat = (if neg then 9223372036854775808 else 0) + b.toNat := by
  cases neg
  · simp [withSign]
  · simp only [withSign, if_true, UInt64.toNat_or]
    have top : ((1 : UInt64) <<< 63).toNat = 2 ^ 63 * 1 := rfl
    rw [top, Nat.or_comm, ← Nat.two_pow_add_eq_or_of_lt lt]

theorem withSign_assemble_fields {x : Float} (finite : biasedExp x ≠ 0x7FF) :
    withSign (signBit x) (assemble (fraction x + Nat.pow 2 52) ((biasedExp x : Int) - 1075)) =
      x.toBits := by
  have exp := biasedExp_eq x
  have mant := fraction_eq x
  have lt := x.toBits.toNat_lt
  have range : biasedExp x < 2047 := by omega
  have back : ((biasedExp x : Int) - 1075 + 1075).toNat = biasedExp x := by omega
  have word := assemble_toNat (M := fraction x + Nat.pow 2 52) (k := (biasedExp x : Int) - 1075)
    (by omega) (by rw [twoPow52_eq, twoPow53_eq]; omega) (by omega)
  rw [back, twoPow52_eq] at word
  rw [← UInt64.toNat_inj, withSign_toNat _ (by rw [word]; omega), word, signBit_eq]
  by_cases top : 9223372036854775808 ≤ x.toBits.toNat
  · rw [if_pos (decide_eq_true top)]
    omega
  · rw [if_neg (by simpa using top)]
    omega

theorem ofInt?_toInt {p : Parts} (norm : Nat.pow 2 52 ≤ p.mant) (lt : p.mant < Nat.pow 2 53)
    (high : p.exp2 ≤ maxExp) (whole : p.isWhole = true) :
    ofInt? p.toInt = some (Float.ofBits (withSign p.neg (assemble p.mant p.exp2))) := by
  obtain ⟨neg, M, k⟩ := p
  simp only at norm lt high
  have mantPos : 0 < M := Nat.lt_of_lt_of_le (Nat.pow_pos (by decide)) norm
  obtain ⟨mag, magEq, exact, pos⟩ : ∃ mag : Nat,
      (if 0 ≤ k then M * Nat.pow 2 k.toNat else M / Nat.pow 2 (-k).toNat) = mag ∧
      (if 0 ≤ k then mag = M * Nat.pow 2 k.toNat else mag * Nat.pow 2 (-k).toNat = M) ∧
      0 < mag := by
    refine ⟨_, rfl, ?_⟩
    have power : 0 < Nat.pow 2 (-k).toNat := Nat.pow_pos (by decide)
    split
    next nonneg => exact ⟨rfl, Nat.mul_pos mantPos (Nat.pow_pos (by decide))⟩
    next negative =>
      simp only [Parts.isWhole, negative, decide_false, Bool.false_or, beq_iff_eq] at whole
      have divides := Nat.dvd_of_mod_eq_zero whole
      exact ⟨Nat.div_mul_cancel divides,
        Nat.div_pos (Nat.le_of_dvd mantPos divides) power⟩
  have toInt : Parts.toInt ⟨neg, M, k⟩ = if neg then -(mag : Int) else mag := by
    simp only [Parts.toInt, magEq]
  have sign : decide (Parts.toInt ⟨neg, M, k⟩ < 0) = neg := by
    rw [toInt]
    cases neg with
    | false => simp
    | true =>
      simp
      omega
  have natAbs : (Parts.toInt ⟨neg, M, k⟩).natAbs = mag := by
    rw [toInt]
    cases neg <;> simp
  unfold ofInt? nearest
  rw [sign, natAbs, nearestBits_exact norm lt high exact]
  rfl

theorem ofInt?_of_normal {x : Float} {n : Int} (normal : biasedExp x ≠ 0)
    (whole : wholeValue? x = some n) : ofInt? n = some x := by
  have finite : biasedExp x ≠ 0x7FF := by
    intro top
    simp [wholeValue?, parts?, top] at whole
  have range : biasedExp x < 2047 := by
    have := biasedExp_lt x
    omega
  have mantissa := fraction_lt x
  simp only [wholeValue?, parts?, finite, normal, if_false] at whole
  split at whole
  next isWhole =>
    cases whole
    rw [ofInt?_toInt (by simp only; omega) (by simp only [twoPow52_eq, twoPow53_eq]; omega)
      (by simp only [maxExp]; omega) isWhole]
    simp only
    rw [withSign_assemble_fields finite, ofBits_toBits]
  next => cases whole

/-! ## Integers convert to finite doubles -/

theorem le_divRoundEven (n d : Nat) : n / d ≤ divRoundEven n d := by
  simp only [divRoundEven]
  split <;> omega

theorem roundedMantissa_bounds {n : Nat} {k : Int} (nonzero : n ≠ 0)
    (log : (n.log2 : Int) = k + 52) :
    Nat.pow 2 52 ≤ (if 0 ≤ k then divRoundEven n (1 * Nat.pow 2 k.toNat)
        else divRoundEven (n * Nat.pow 2 (-k).toNat) 1) ∧
      (if 0 ≤ k then divRoundEven n (1 * Nat.pow 2 k.toNat)
        else divRoundEven (n * Nat.pow 2 (-k).toNat) 1) ≤ Nat.pow 2 53 := by
  have low := Nat.log2_self_le nonzero
  have high := @Nat.lt_log2_self n
  simp only [Nat.pow_eq]
  split
  next nonneg =>
    obtain ⟨K, rfl⟩ := Int.eq_ofNat_of_zero_le nonneg
    have binade : n.log2 = K + 52 := by omega
    rw [Int.toNat_natCast, Nat.one_mul]
    rw [binade, Nat.pow_add, Nat.mul_comm] at low
    rw [binade, show K + 52 + 1 = 53 + K by omega, Nat.pow_add] at high
    have power := Nat.two_pow_pos K
    have above : 2 ^ 52 ≤ n / 2 ^ K := (Nat.le_div_iff_mul_le power).mpr low
    have below : n / 2 ^ K < 2 ^ 53 := (Nat.div_lt_iff_lt_mul power).mpr high
    have up := divRoundEven_le n (2 ^ K)
    have down := le_divRoundEven n (2 ^ K)
    constructor <;> omega
  next negative =>
    obtain ⟨J, hJ⟩ : ∃ J : Nat, -k = J := ⟨(-k).toNat, by omega⟩
    rw [hJ, Int.toNat_natCast, ← Nat.mul_one (n * 2 ^ J), divRoundEven_mul _ Nat.one_pos]
    have binade : n.log2 + J = 52 := by omega
    have lowJ : 2 ^ 52 ≤ n * 2 ^ J := by
      rw [← binade, Nat.pow_add]
      exact Nat.mul_le_mul_right _ low
    have highJ : n * 2 ^ J < 2 ^ 53 := by
      rw [show 53 = n.log2 + 1 + J by omega, Nat.pow_add]
      exact Nat.mul_lt_mul_of_pos_right high (Nat.two_pow_pos J)
    omega

theorem nearestBits_one_eq_some {n : Nat} {b : UInt64} (nonzero : n ≠ 0)
    (rounded : nearestBits n 1 = some b) :
    ∃ m k, Nat.pow 2 52 ≤ m ∧ m < Nat.pow 2 53 ∧ -52 ≤ k ∧ k ≤ maxExp ∧
      b = assemble m k := by
  have exp : max (log2Ratio n 1 - 52) minExp = (n.log2 : Int) - 52 := by
    simp [log2Ratio_one nonzero, minExp]
    omega
  obtain ⟨low, high⟩ :=
    roundedMantissa_bounds nonzero (by omega : (n.log2 : Int) = (n.log2 : Int) - 52 + 52)
  unfold nearestBits at rounded
  simp only [nonzero, Nat.one_ne_zero, or_self, if_false] at rounded
  rw [exp] at rounded
  generalize (if 0 ≤ (n.log2 : Int) - 52 then _ else _) = m at rounded low high
  by_cases carry : m = Nat.pow 2 53
  · -- the mantissa carried into a 54th bit: one more power of two, leading bit only
    simp only [carry, if_true] at rounded
    split at rounded
    next => cases rounded
    next fits =>
      cases rounded
      exact ⟨Nat.pow 2 52, (n.log2 : Int) - 52 + 1, Nat.le_refl _, by decide, by omega,
        by omega, rfl⟩
  · simp only [carry, if_false] at rounded
    split at rounded
    next => cases rounded
    next fits =>
      cases rounded
      exact ⟨m, (n.log2 : Int) - 52, low, Nat.lt_of_le_of_ne high carry, by omega, by omega,
        rfl⟩

/-- The double an integer converts to is finite: rounding never reaches the exponent field of
the infinities and not-a-number. -/
theorem ofInt?_finite {n : Int} {y : Float} (converted : ofInt? n = some y) :
    (value? y).isSome := by
  unfold ofInt? nearest at converted
  obtain ⟨b, rounded, rfl⟩ := Option.map_eq_some_iff.mp converted
  have word : b.toNat < 9223372036854775808 ∧ b.toNat / 4503599627370496 % 2048 ≠ 2047 := by
    by_cases zero : n.natAbs = 0
    · rw [zero] at rounded
      cases rounded
      decide
    · obtain ⟨m, k, low, high, bottom, top, rfl⟩ := nearestBits_one_eq_some zero rounded
      simp only [maxExp] at top
      rw [assemble_toNat low high (by omega)]
      rw [twoPow52_eq] at low
      rw [twoPow53_eq] at high
      omega
  have field : (withSign (decide (n < 0)) b).toNat / 4503599627370496 % 2048 ≠ 2047 := by
    rw [withSign_toNat _ word.1]
    split <;> omega
  rw [value?_isSome_iff, biasedExp_eq, toBits_ofBits field, withSign_toNat _ word.1]
  split <;> omega

theorem div_two_pow_eq_zero {f a b : Nat} (lt : f < 2 ^ a) (le : a ≤ b) :
    f / Nat.pow 2 b = 0 :=
  Nat.div_eq_of_lt (Nat.lt_of_lt_of_le lt (Nat.pow_le_pow_right (by decide) le))

theorem wholeValue?_of_subnormal {x : Float} {n : Int} (subnormal : biasedExp x = 0)
    (whole : wholeValue? x = some n) : n = 0 := by
  have mantissa : fraction x < 2 ^ 52 := fraction_lt x
  have quotient : fraction x / Nat.pow 2 (-(-1074 : Int)).toNat = 0 :=
    div_two_pow_eq_zero mantissa (by decide)
  simp only [wholeValue?, parts?, subnormal, show (0 : Nat) ≠ 0x7FF by decide, if_false,
    if_true] at whole
  split at whole
  next =>
    cases whole
    simp only [Parts.toInt, show ¬ (0 : Int) ≤ -1074 by decide, if_false, quotient,
      Nat.cast_zero, neg_zero, ite_self]
  next => cases whole

/-- The integer of a whole double converts to a double that is `==` to it: the double itself,
or positive zero for negative zero. -/
theorem ofInt?_wholeValue? {x : Float} {n : Int} (whole : wholeValue? x = some n) :
    ∃ y, ofInt? n = some y ∧ (y == x) = true := by
  have value := (wholeValue?_eq_some_iff x n).mp whole
  by_cases subnormal : biasedExp x = 0
  · have zero := wholeValue?_of_subnormal subnormal whole
    subst zero
    exact ⟨Float.ofBits 0, rfl, zero_beq (by simpa using value)⟩
  · exact ⟨x, ofInt?_of_normal subnormal whole, beq_self (by rw [value]; rfl)⟩

end Cinema.Binary64
