import Cinema.Binary64.Round

/-!
# Which integers overflow a double

`Binary64.ofInt?` refuses an integer exactly when its magnitude is at least `2 ^ 1024 - 2 ^ 970`:
halfway between the largest finite double, `(2 ^ 53 - 1) * 2 ^ 971`, and `2 ^ 1024`. From there
on rounding to nearest, ties to even, carries the 53-bit significand into a 54th bit at the
largest exponent. The main statement is `ofInt?_eq_none_iff`.

The proof follows `nearestBits`: the exponent a ratio is placed at is `roundedExp`, overflow is
that exponent passing `maxExp`, and for an integer the exponent is its binary logarithm less 52,
plus the carry. Only the top binade, `2 ^ 1023 ≤ n < 2 ^ 1024`, needs the carry worked out.
-/

set_option autoImplicit false
set_option relaxedAutoImplicit false

namespace Cinema.Binary64

/-! ## Rounding a quotient -/

theorem divRoundEven_le (n d : Nat) : divRoundEven n d ≤ n / d + 1 := by
  simp only [divRoundEven]
  split <;> omega

theorem divRoundEven_eq_succ_of_odd {n d : Nat} (odd : n / d % 2 = 1) :
    divRoundEven n d = n / d + 1 ↔ d ≤ 2 * (n % d) := by
  simp only [divRoundEven]
  split
  · exact ⟨fun _ => by omega, fun _ => rfl⟩
  · exact ⟨fun carried => by omega, fun half => by omega⟩

/-- Rounding `n / d` to nearest, ties to even, carries past an odd `top` exactly when `n` reaches
halfway between `top * d` and `(top + 1) * d`. -/
theorem divRoundEven_eq_succ_iff {n d top half : Nat} (halves : d = 2 * half)
    (odd : top % 2 = 1) (below : n < (top + 1) * d) :
    divRoundEven n d = top + 1 ↔ top * d + half ≤ n := by
  have split : d * (n / d) + n % d = n := Nat.div_add_mod n d
  have pos : 0 < d := by
    rcases Nat.eq_zero_or_pos d with zero | pos
    · simp [zero] at below
    · exact pos
  have quot : n / d < top + 1 := (Nat.div_lt_iff_lt_mul pos).mpr below
  rcases Nat.lt_or_eq_of_le (Nat.le_of_lt_succ quot) with lower | last
  · -- a quotient below `top` rounds to at most `top`, and `n` stays below `top * d`
    have far : d * (n / d + 1) ≤ d * top := Nat.mul_le_mul_left d lower
    have carry := divRoundEven_le n d
    have rem := Nat.mod_lt n pos
    rw [Nat.mul_succ] at far
    rw [Nat.mul_comm top d]
    exact ⟨fun reached => by omega, fun reached => by omega⟩
  · have rounds := divRoundEven_eq_succ_of_odd (by rw [last]; exact odd : n / d % 2 = 1)
    rw [last] at rounds split
    rw [rounds, Nat.mul_comm top d]
    omega

/-! ## The exponent of a rounded ratio -/

/-- The exponent at which `nearestBits` places the ratio `n / d`: the exponent of its 53-bit
significand, one more when rounding carries into a 54th bit. -/
def roundedExp (n d : Nat) : Int :=
  let k := max (log2Ratio n d - 52) minExp
  let m := if 0 ≤ k then divRoundEven n (d * Nat.pow 2 k.toNat)
    else divRoundEven (n * Nat.pow 2 (-k).toNat) d
  if m = Nat.pow 2 53 then k + 1 else k

theorem roundedExp_bounds (n d : Nat) :
    max (log2Ratio n d - 52) minExp ≤ roundedExp n d ∧
      roundedExp n d ≤ max (log2Ratio n d - 52) minExp + 1 := by
  unfold roundedExp
  dsimp only
  generalize max (log2Ratio n d - 52) minExp = k
  generalize (if 0 ≤ k then _ else _) = m
  split <;> omega

theorem nearestBits_eq_none_iff {n d : Nat} (pos : n ≠ 0) (posd : d ≠ 0) :
    nearestBits n d = none ↔ maxExp < roundedExp n d := by
  unfold nearestBits roundedExp
  simp only [pos, posd, or_self, if_false]
  generalize max (log2Ratio n d - 52) minExp = k
  generalize (if 0 ≤ k then _ else _) = m
  by_cases carry : m = Nat.pow 2 53 <;> simp [carry]

theorem log2Ratio_one {n : Nat} (pos : n ≠ 0) : log2Ratio n 1 = n.log2 := by
  -- `n` is at least the power of two at its logarithm, so the ratio is not below it
  have notBelow : ratioBelowPow2 n 1 n.log2 = false := by
    have low := Nat.log2_self_le pos
    simp only [ratioBelowPow2, Int.natCast_nonneg, if_true, Int.toNat_natCast, Nat.one_mul,
      decide_eq_false_iff_not]
    exact Nat.not_lt.mpr low
  have one : ((Nat.log2 1 : Nat) : Int) = 0 := by decide
  simp only [log2Ratio, one, Int.sub_zero, notBelow]
  rfl

/-- An integer of logarithm `e + 53` is placed at exponent `e + 1`, or `e + 2` once it reaches
`B`, halfway above the largest 53-bit significand times `2 ^ (e + 1)`. -/
theorem roundedExp_of_log2 {n e B : Nat} (binade : n.log2 = e + 53)
    (halfway : (Nat.pow 2 53 - 1) * Nat.pow 2 (e + 1) + Nat.pow 2 e = B) :
    roundedExp n 1 = ((e + 1 : Nat) : Int) + if B ≤ n then 1 else 0 := by
  subst halfway
  have pos : n ≠ 0 := fun zero => by simp [zero] at binade
  have exp : max (log2Ratio n 1 - 52) minExp = ((e + 1 : Nat) : Int) := by
    simp [log2Ratio_one pos, binade, minExp]
    omega
  have below : n < Nat.pow 2 53 * Nat.pow 2 (e + 1) := by
    have above := @Nat.lt_log2_self n
    have split : e + 53 + 1 = 53 + (e + 1) := by omega
    rw [binade, split, Nat.pow_add] at above
    exact above
  have carry : divRoundEven n (Nat.pow 2 (e + 1)) = Nat.pow 2 53 - 1 + 1 ↔
      (Nat.pow 2 53 - 1) * Nat.pow 2 (e + 1) + Nat.pow 2 e ≤ n := by
    have whole : Nat.pow 2 53 - 1 + 1 = Nat.pow 2 53 := by decide
    refine divRoundEven_eq_succ_iff Nat.pow_succ' (by decide) ?_
    rw [whole]
    exact below
  rw [Nat.sub_add_cancel (by decide : 1 ≤ Nat.pow 2 53)] at carry
  unfold roundedExp
  dsimp only
  rw [exp, if_pos (Int.natCast_nonneg _), Int.toNat_natCast, Nat.one_mul]
  by_cases reached : (Nat.pow 2 53 - 1) * Nat.pow 2 (e + 1) + Nat.pow 2 e ≤ n
  · rw [if_pos (carry.mpr reached), if_pos reached]
  · rw [if_neg (mt carry.mp reached), if_neg reached, Int.add_zero]

/-! ## The threshold -/

/-- The least magnitude of an integer that no double carries. -/
def overflowBound : Nat := Nat.pow 2 1024 - Nat.pow 2 970

theorem nearestBits_one_eq_none_iff (n : Nat) : nearestBits n 1 = none ↔ overflowBound ≤ n := by
  by_cases zero : n = 0
  · have pos : 0 < overflowBound := by decide +kernel
    simp [nearestBits, zero]
    omega
  rw [nearestBits_eq_none_iff zero Nat.one_ne_zero]
  have exp : max (log2Ratio n 1 - 52) minExp = (n.log2 : Int) - 52 := by
    simp [log2Ratio_one zero, minExp]
    omega
  have rounded := roundedExp_bounds n 1
  rw [exp] at rounded
  rcases Nat.lt_trichotomy n.log2 1023 with small | top | large
  · -- below the top binade the exponent is at most 970, and a carry lifts it by one
    have below : n < overflowBound :=
      Nat.lt_of_lt_of_le ((Nat.log2_lt zero).mp small) (by decide +kernel)
    simp only [maxExp]
    omega
  · -- in the top binade the exponent is 971, the largest finite one, until the carry
    rw [roundedExp_of_log2 (by omega : n.log2 = 970 + 53) (by decide +kernel : _ = overflowBound)]
    by_cases reached : overflowBound ≤ n
    · simp only [if_pos reached, maxExp]
      exact ⟨fun _ => reached, fun _ => by decide⟩
    · simp only [if_neg reached, maxExp]
      exact ⟨fun past => absurd past (by decide), fun below => absurd below reached⟩
  · -- past the top binade the exponent is already beyond the largest
    have above : overflowBound ≤ n :=
      Nat.le_trans (by decide +kernel) ((Nat.le_log2 zero).mp (by omega : 1024 ≤ n.log2))
    simp only [maxExp]
    omega

theorem ofInt?_eq_none_iff (i : Int) : ofInt? i = none ↔ overflowBound ≤ i.natAbs := by
  rw [← nearestBits_one_eq_none_iff]
  simp [ofInt?, nearest]

end Cinema.Binary64
