import Mathlib
import Cinema.Binary64.Parts

/-!
# The fields of a double and Lean's own model of floats

Lean gives `Float` a logical model: a double is its 64 bits, and its meaning is the
`UnpackedFloat` that `Float.Model.unpack` reads off them; `==` is defined there as IEEE 754
equality. `Binary64.parts?` reads the same bits through `biasedExp`, `fraction` and `signBit`.
The two readings agree (`value?_eq_map_parts`), so statements about the service's doubles can
speak of their exact value. The field readings are moved to arithmetic on the 64-bit word, where
`omega` decides them.
-/

set_option autoImplicit false
set_option relaxedAutoImplicit false

namespace Cinema.Binary64

open Float.Model Float.Model.UnpackedFloat

/-! ## The fields as arithmetic on the word -/

theorem biasedExp_eq (x : Float) : biasedExp x = x.toBits.toNat / 4503599627370496 % 2048 := by
  simp only [biasedExp, UInt64.toNat_and, UInt64.toNat_shiftRight]
  have mask : (0x7FF : UInt64).toNat = 2 ^ 11 - 1 := rfl
  rw [mask, Nat.and_two_pow_sub_one_eq_mod, Nat.shiftRight_eq_div_pow]
  rfl

theorem fraction_eq (x : Float) : fraction x = x.toBits.toNat % 4503599627370496 := by
  simp only [fraction, UInt64.toNat_and]
  have mask : (0xFFFFFFFFFFFFF : UInt64).toNat = 2 ^ 52 - 1 := rfl
  rw [mask, Nat.and_two_pow_sub_one_eq_mod]

theorem signBit_eq (x : Float) : signBit x = decide (9223372036854775808 ≤ x.toBits.toNat) := by
  have lt := x.toBits.toNat_lt
  simp only [signBit]
  rw [Bool.eq_iff_iff, beq_iff_eq, decide_eq_true_iff, ← UInt64.toNat_inj,
    UInt64.toNat_shiftRight, Nat.shiftRight_eq_div_pow]
  simp only [UInt64.toNat_ofNat, Nat.reducePow, Nat.reduceMod]
  omega

theorem biasedExp_lt (x : Float) : biasedExp x < 2048 := by
  rw [biasedExp_eq]
  exact Nat.mod_lt _ (by decide)

theorem fraction_lt (x : Float) : fraction x < 4503599627370496 := by
  rw [fraction_eq]
  exact Nat.mod_lt _ (by decide)

theorem twoPow52_eq : Nat.pow 2 52 = 4503599627370496 := rfl

theorem twoPow53_eq : Nat.pow 2 53 = 9007199254740992 := rfl

theorem unpackExponent_toNat (x : Float) :
    (@unpackExponent Format.binary64 x.toBits.toBitVec).toNat = biasedExp x := by
  rw [biasedExp_eq]
  simp [unpackExponent, Nat.shiftRight_eq_div_pow]

theorem unpackMantissa_toNat (x : Float) :
    (@unpackMantissa Format.binary64 x.toBits.toBitVec).toNat = fraction x := by
  rw [fraction_eq]
  simp [unpackMantissa]

theorem unpackSign_toNat (x : Float) :
    (@unpackSign Format.binary64 x.toBits.toBitVec).toNat =
      x.toBits.toNat / 9223372036854775808 := by
  have lt := x.toBits.toNat_lt
  simp [unpackSign, Nat.shiftRight_eq_div_pow]
  omega

theorem sign_unpackSign (x : Float) :
    Sign.ofBitVec (@unpackSign Format.binary64 x.toBits.toBitVec) =
      if signBit x then .negative else .positive := by
  have lt := x.toBits.toNat_lt
  have sign := unpackSign_toNat x
  rw [signBit_eq]
  unfold Sign.ofBitVec
  split
  next zero =>
    have : (@unpackSign Format.binary64 x.toBits.toBitVec).toNat = 0 := by rw [zero]; rfl
    rw [if_neg (by simp; omega)]
  next nonzero =>
    have : (@unpackSign Format.binary64 x.toBits.toBitVec).toNat ≠ 0 := fun same =>
      nonzero (BitVec.eq_of_toNat_eq same)
    rw [if_pos (by simp; omega)]

/-! ## Packing what was unpacked -/

theorem sign_toBitVec_ofBitVec (c : BitVec 1) : (Sign.ofBitVec c).toBitVec = c := by
  unfold Sign.ofBitVec
  split
  next zero => rw [zero]; rfl
  next nonzero =>
    have lt := c.isLt
    have : c.toNat ≠ 0 := fun same => nonzero (BitVec.eq_of_toNat_eq same)
    apply BitVec.eq_of_toNat_eq
    simp [Sign.toBitVec]
    omega

theorem toNat_packComponents (s : Sign) (e : BitVec 11) (m : BitVec 52) :
    (packComponents Format.binary64 s e m).toNat =
      (s.toBitVec.toNat * 2048 + e.toNat) * 4503599627370496 + m.toNat := by
  simp only [packComponents, BitVec.toNat_append]
  rw [← Nat.shiftLeft_add_eq_or_of_lt e.isLt, ← Nat.shiftLeft_add_eq_or_of_lt m.isLt,
    Nat.shiftLeft_eq, Nat.shiftLeft_eq]

theorem packComponents_unpack (b : BitVec 64) :
    packComponents Format.binary64 (Sign.ofBitVec (@unpackSign Format.binary64 b))
      (@unpackExponent Format.binary64 b) (@unpackMantissa Format.binary64 b) = b := by
  apply BitVec.eq_of_toNat_eq
  rw [toNat_packComponents, sign_toBitVec_ofBitVec]
  have lt := b.isLt
  simp only [unpackSign, unpackExponent, unpackMantissa, BitVec.toNat_cast,
    BitVec.extractLsb_toNat, Nat.shiftRight_eq_div_pow, Format.binary64]
  simp
  omega

theorem exponentBias_binary64 : Format.binary64.exponentBias = 1023 := rfl

theorem mantissaBits_binary64 : Format.binary64.mantissaBits = 53 := rfl

/-- Packing an unpacked word gives the word back, for every word whose not-a-number, if it is
one, is the canonical one. -/
theorem pack_unpack (b : BitVec 64) (valid : Format.binary64.Valid b) :
    UnpackedFloat.pack Format.binary64 (UnpackedFloat.unpack Format.binary64 b) = b := by
  have whole := packComponents_unpack b
  have range : (@unpackExponent Format.binary64 b).toNat < 2048 :=
    (@unpackExponent Format.binary64 b).isLt
  have mantissa : (@unpackMantissa Format.binary64 b).toNat < 4503599627370496 :=
    (@unpackMantissa Format.binary64 b).isLt
  have bias := exponentBias_binary64
  have bits := mantissaBits_binary64
  unfold UnpackedFloat.unpack
  dsimp only
  split
  next top =>
    split
    next zero =>
      rw [top, zero] at whole
      exact whole
    next nonzero => exact (valid.eq_packedNaN top nonzero).symm
  next notTop =>
    have below : (@unpackExponent Format.binary64 b).toNat < 2047 := by
      have ne : (@unpackExponent Format.binary64 b).toNat ≠ 2047 := fun same =>
        notTop (BitVec.eq_of_toNat_eq (by rw [same]; rfl))
      omega
    split
    next bottom =>
      have zeroExp : (@unpackExponent Format.binary64 b).toNat = 0 := by rw [bottom]; rfl
      split
      next zero =>
        rw [bottom, zero] at whole
        exact whole
      next nonzero =>
        -- a subnormal: the exponent field stays zero and the mantissa is packed as it is
        have log : (@unpackMantissa Format.binary64 b).toNat.log2 < 52 :=
          (Nat.log2_lt fun same => nonzero (BitVec.eq_of_toNat_eq same)).mpr mantissa
        simp only [UnpackedFloat.pack]
        split
        next tooLarge => omega
        split
        next normal => omega
        rw [BitVec.ofNat_toNat, BitVec.setWidth_eq, ← bottom]
        exact whole
    next notBottom =>
      -- a normal double: the implicit leading bit is dropped again when the mantissa is packed
      have pos : 0 < (@unpackExponent Format.binary64 b).toNat :=
        Nat.pos_of_ne_zero fun same => notBottom (BitVec.eq_of_toNat_eq same)
      have value : (1#1 ++ @unpackMantissa Format.binary64 b).toNat =
          4503599627370496 + (@unpackMantissa Format.binary64 b).toNat := by
        rw [BitVec.toNat_append, ← Nat.shiftLeft_add_eq_or_of_lt mantissa]
        rfl
      have log : (1#1 ++ @unpackMantissa Format.binary64 b).toNat.log2 = 52 := by
        rw [value, Nat.log2_eq_iff (by omega)]
        omega
      simp only [UnpackedFloat.pack]
      split
      next tooLarge => omega
      split
      next normal =>
        have exp : ((((@unpackExponent Format.binary64 b).toNat : Int) -
            (Format.binary64.exponentBias + (52 : Nat)) + Format.binary64.exponentBias +
            (52 : Nat)).toNat) = (@unpackExponent Format.binary64 b).toNat := by omega
        have low : BitVec.ofNat 52 (1#1 ++ @unpackMantissa Format.binary64 b).toNat =
            @unpackMantissa Format.binary64 b := by
          apply BitVec.eq_of_toNat_eq
          rw [BitVec.toNat_ofNat, value]
          omega
        rw [exp, BitVec.ofNat_toNat, BitVec.setWidth_eq, low]
        exact whole
      next subnormal => omega

theorem ofBits_toBits (x : Float) : Float.ofBits x.toBits = x := by
  obtain ⟨⟨bits, valid⟩⟩ := x
  show Float.ofModel (Float.Model.pack _) = _
  congr 1
  simp only [Float.Model.pack, Float.Model.mk.injEq]
  exact congrArg UInt64.ofBitVec (pack_unpack bits.toBitVec valid)

/-- A word whose exponent field is not all ones is read back unchanged: only a not-a-number can
be canonicalised. -/
theorem toBits_ofBits {w : UInt64} (finite : w.toNat / 4503599627370496 % 2048 ≠ 2047) :
    (Float.ofBits w).toBits = w := by
  have exp : (@unpackExponent Format.binary64 w.toBitVec).toNat =
      w.toNat / 4503599627370496 % 2048 := by
    simp [unpackExponent, Nat.shiftRight_eq_div_pow]
  have valid : Format.binary64.Valid w.toBitVec :=
    ⟨fun top _ => absurd (by rw [← exp, top]; rfl) finite⟩
  show UInt64.ofBitVec
    (UnpackedFloat.pack Format.binary64 (UnpackedFloat.unpack Format.binary64 w.toBitVec)) = w
  exact congrArg UInt64.ofBitVec (pack_unpack _ valid)

/-! ## Exact values -/

def Parts.value (p : Parts) : ℚ := (if p.neg then -(p.mant : ℚ) else p.mant) * 2 ^ p.exp2

def unpackedValue? : UnpackedFloat → Option ℚ
  | .finite s m e _ => some ((s.apply m : ℚ) * 2 ^ e)
  | .zero _ => some 0
  | .infinity _ | .notANumber => none

/-- The exact value of a double, as Lean's own model of floats reads its bits; none for an
infinity or not-a-number. -/
def value? (x : Float) : Option ℚ := unpackedValue? x.toModel.unpack

theorem apply_sign (neg : Bool) (m : Nat) :
    (((if neg then Sign.negative else Sign.positive).apply m : Int) : ℚ) =
      if neg then -(m : ℚ) else m := by
  cases neg <;> simp [Sign.apply]

theorem value?_eq_map_parts (x : Float) : value? x = (parts? x).map Parts.value := by
  have sign := sign_unpackSign x
  have exp := unpackExponent_toNat x
  have mant := unpackMantissa_toNat x
  have range := biasedExp_lt x
  have bits : x.toModel.toBits = x.toBits := rfl
  unfold value? Float.Model.unpack parts?
  rw [bits]
  unfold UnpackedFloat.unpack
  dsimp only
  rw [sign]
  split
  next top =>
    have : biasedExp x = 0x7FF := by rw [← exp, top]; rfl
    rw [if_pos this]
    split <;> rfl
  next notTop =>
    have : biasedExp x ≠ 0x7FF := fun same =>
      notTop (BitVec.eq_of_toNat_eq (by rw [exp, same]; rfl))
    rw [if_neg this]
    have bias := exponentBias_binary64
    split
    next bottom =>
      have zero : biasedExp x = 0 := by rw [← exp, bottom]; rfl
      rw [if_pos zero]
      split
      next noMant =>
        have : fraction x = 0 := by rw [← mant, noMant]; rfl
        simp [unpackedValue?, Parts.value, this]
      next someMant =>
        simp only [unpackedValue?, Parts.value, apply_sign, mant, Option.map_some]
        congr 3
        omega
    next notBottom =>
      have value : (1#1 ++ @unpackMantissa Format.binary64 x.toBits.toBitVec).toNat =
          fraction x + Nat.pow 2 52 := by
        rw [BitVec.toNat_append, ← mant, ← Nat.shiftLeft_add_eq_or_of_lt (mant ▸ fraction_lt x),
          twoPow52_eq]
        have one : (1#1).toNat = 1 := rfl
        simp only [Nat.shiftLeft_eq]
        omega
      have normal : biasedExp x ≠ 0 := fun same =>
        notBottom (BitVec.eq_of_toNat_eq (by rw [exp, same]; rfl))
      rw [if_neg normal]
      simp only [unpackedValue?, Parts.value, apply_sign, value, Option.map_some]
      congr 3
      omega

theorem value?_isSome_iff (x : Float) : (value? x).isSome ↔ biasedExp x ≠ 0x7FF := by
  rw [value?_eq_map_parts]
  unfold parts?
  by_cases top : biasedExp x = 0x7FF
  · simp [top]
  · rw [if_neg top]
    split <;> simp [top]

/-! ## Equality of doubles -/

theorem compare_self {u : UnpackedFloat} (finite : (unpackedValue? u).isSome) :
    u.compare u = some .eq := by
  cases u with
  | finite s m e pos => cases s <;> simp [UnpackedFloat.compare]
  | zero s => cases s <;> rfl
  | infinity s => simp [unpackedValue?] at finite
  | notANumber => simp [unpackedValue?] at finite

theorem beq_self {x : Float} (finite : (value? x).isSome) : (x == x) = true := by
  show (x.toModel.unpack.compare x.toModel.unpack == some .eq) = true
  rw [compare_self finite]
  rfl

theorem eq_zero_of_value? {u : UnpackedFloat} (zero : unpackedValue? u = some 0) :
    ∃ s, u = .zero s := by
  cases u with
  | finite s m e pos =>
    have signed : ((s.apply m : Int) : ℚ) ≠ 0 := by
      cases s <;> simp only [Sign.apply, Int.cast_neg, Int.cast_natCast, ne_eq, neg_eq_zero,
        Nat.cast_eq_zero] <;> omega
    exact absurd (Option.some.inj zero) (mul_ne_zero signed (zpow_ne_zero _ two_ne_zero))
  | zero s => exact ⟨s, rfl⟩
  | infinity s => cases zero
  | notANumber => cases zero

theorem zero_beq {x : Float} (zero : value? x = some 0) : (Float.ofBits 0 == x) = true := by
  obtain ⟨s, signed⟩ := eq_zero_of_value? zero
  show ((Float.ofBits 0).toModel.unpack.compare x.toModel.unpack == some .eq) = true
  rw [signed]
  cases s <;> decide +kernel

end Cinema.Binary64
