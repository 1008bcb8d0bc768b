import Mathlib.Tactic.Linarith
import Mathlib.Tactic.Ring
import RelyingParty.Numeric.Binary64

/-!
# Rounding stays above powers of two

A power of two is a number of the binary format itself, as far as the format reaches. So a ratio
that is at least a power of two stays so when it is rounded, and the same holds of the several
roundings by which the digits and the exponent of a decimal number are brought together.
-/

namespace RelyingParty.Numeric

/-- A multiple of the denominator that a numerator reaches is reached by the rounded quotient. -/
theorem le_roundDiv {num den count : Nat} (positive : 0 < den) (h : count * den ≤ num) :
    count ≤ roundDiv num den := by
  have hfloor : count ≤ num / den := (Nat.le_div_iff_mul_le positive).mpr h
  unfold roundDiv
  dsimp only
  split
  · exact hfloor
  · omega

namespace Binary64

/-- A number is at least a natural number, whatever its sign. -/
def AtLeast (x : Binary64) (bound : Nat) : Prop := bound * x.ratio.2 ≤ x.ratio.1

/-- One of the two factors is one, according to the sign of the exponent. -/
theorem ratio_eq (x : Binary64) :
    x.ratio = (x.mantissa * 2 ^ x.exponent.toNat, 2 ^ (-x.exponent).toNat) := by
  unfold ratio
  split
  · next h =>
    have hzero : x.exponent.toNat = 0 := by omega
    rw [hzero, pow_zero, mul_one]
    rfl
  · next h =>
    have hzero : (-x.exponent).toNat = 0 := by omega
    rw [hzero, pow_zero]
    rfl

theorem scaled_eq (num den : Nat) (exponent : Int) :
    scaled num den exponent = (num * 2 ^ (-exponent).toNat, den * 2 ^ exponent.toNat) := by
  unfold scaled
  split
  · next h =>
    have hzero : exponent.toNat = 0 := by omega
    rw [hzero, pow_zero, mul_one]
    rfl
  · next h =>
    have hzero : (-exponent).toNat = 0 := by omega
    rw [hzero, pow_zero, mul_one]
    rfl

theorem unitExponent_le (num den : Nat) :
    unitExponent num den ≤ max ((num.log2 : Int) - den.log2 - 52) (-1074) := by
  unfold unitExponent
  dsimp only
  split <;> omega

/-- Scaled down to a mantissa of 53 bits, a number is not below one. -/
theorem den_mul_le {num den : Nat} (positive : num ≠ 0) {exponent : Nat}
    (h : (exponent : Int) ≤ (num.log2 : Int) - den.log2 - 52) : den * 2 ^ exponent ≤ num := by
  have hden : den < 2 ^ (den.log2 + 1) := Nat.lt_log2_self
  have hexponent : den.log2 + 1 + exponent ≤ num.log2 := by omega
  calc den * 2 ^ exponent
      ≤ 2 ^ (den.log2 + 1) * 2 ^ exponent := Nat.mul_le_mul_right _ hden.le
    _ = 2 ^ (den.log2 + 1 + exponent) := (pow_add 2 _ _).symm
    _ ≤ 2 ^ num.log2 := Nat.pow_le_pow_right (by decide) hexponent
    _ ≤ num := Nat.log2_self_le positive

/-- The rounded mantissa reaches a power of two that the ratio reaches. -/
theorem le_mantissa {num den power : Nat} (positive : 0 < den) (h : 2 ^ power * den ≤ num) :
    2 ^ power * 2 ^ (-unitExponent num den).toNat ≤
      roundDiv (scaled num den (unitExponent num den)).1
        (scaled num den (unitExponent num den)).2 * 2 ^ (unitExponent num den).toNat := by
  have hnum : num ≠ 0 := by
    have hproduct : 0 < 2 ^ power * den := Nat.mul_pos (Nat.pow_pos (by decide)) positive
    omega
  have hbound := unitExponent_le num den
  rw [scaled_eq]
  generalize unitExponent num den = exponent at hbound ⊢
  have hscaled : 0 < den * 2 ^ exponent.toNat := Nat.mul_pos positive (Nat.pow_pos (by decide))
  by_cases hlow : exponent ≤ power
  · -- the power of two is a whole number of units
    obtain ⟨rest, hrest⟩ : ∃ rest, power + (-exponent).toNat = rest + exponent.toNat :=
      ⟨power + (-exponent).toNat - exponent.toNat, by omega⟩
    have hunits : 2 ^ rest * (den * 2 ^ exponent.toNat) ≤ num * 2 ^ (-exponent).toNat := by
      calc 2 ^ rest * (den * 2 ^ exponent.toNat)
          = 2 ^ (rest + exponent.toNat) * den := by ring
        _ = 2 ^ (power + (-exponent).toNat) * den := by rw [hrest]
        _ = 2 ^ power * den * 2 ^ (-exponent).toNat := by ring
        _ ≤ num * 2 ^ (-exponent).toNat := Nat.mul_le_mul_right _ h
    calc 2 ^ power * 2 ^ (-exponent).toNat
        = 2 ^ (power + (-exponent).toNat) := (pow_add 2 _ _).symm
      _ = 2 ^ rest * 2 ^ exponent.toNat := by rw [hrest, pow_add]
      _ ≤ _ := Nat.mul_le_mul_right _ (le_roundDiv hscaled hunits)
  · -- one unit is more than the power of two
    have hzero : (-exponent).toNat = 0 := by omega
    have hone : 1 * (den * 2 ^ exponent.toNat) ≤ num * 2 ^ (-exponent).toNat := by
      rw [one_mul, hzero, pow_zero, mul_one]
      exact den_mul_le hnum (by omega)
    calc 2 ^ power * 2 ^ (-exponent).toNat
        = 2 ^ power := by rw [hzero, pow_zero, mul_one]
      _ ≤ 2 ^ exponent.toNat := Nat.pow_le_pow_right (by decide) (by omega)
      _ = 1 * 2 ^ exponent.toNat := (one_mul _).symm
      _ ≤ _ := Nat.mul_le_mul_right _ (le_roundDiv hscaled hone)

/-- A mantissa of 54 bits is one of 53 bits at twice the unit. -/
theorem le_carried {bound : Nat} {exponent : Int}
    (h : bound * 2 ^ (-exponent).toNat ≤ mantissaEnd * 2 ^ exponent.toNat) :
    bound * 2 ^ (-(exponent + 1)).toNat ≤ mantissaEnd / 2 * 2 ^ (exponent + 1).toNat := by
  have hhalf : mantissaEnd = 2 * (mantissaEnd / 2) := rfl
  generalize mantissaEnd / 2 = half at hhalf ⊢
  rw [hhalf] at h
  by_cases hnegative : exponent < 0
  · have hdown : (-exponent).toNat = (-(exponent + 1)).toNat + 1 := by omega
    have hzero : exponent.toNat = 0 := by omega
    have hnext : (exponent + 1).toNat = 0 := by omega
    rw [hdown, hzero, pow_succ] at h
    rw [hnext]
    linarith
  · have hup : (exponent + 1).toNat = exponent.toNat + 1 := by omega
    have hzero : (-exponent).toNat = 0 := by omega
    have hnext : (-(exponent + 1)).toNat = 0 := by omega
    rw [hzero] at h
    rw [hup, hnext, pow_succ]
    linarith

/-- What is rounded to a number has the rounded mantissa, or half of it at twice the unit. -/
theorem ofRatio?_eq_some {num den mantissa : Nat} {exponent : Int} {x : Binary64}
    (positive : num ≠ 0) (hexponent : unitExponent num den = exponent)
    (hmantissa : roundDiv (scaled num den exponent).1 (scaled num den exponent).2 = mantissa)
    (h : ofRatio? num den = some x) :
    x = ⟨false, mantissa, exponent⟩ ∨
      mantissa = mantissaEnd ∧ x = ⟨false, mantissaEnd / 2, exponent + 1⟩ := by
  rw [ofRatio?, hexponent] at h
  generalize mantissaEnd = top at h ⊢
  split at h
  · next hzero => exact absurd (beq_iff_eq.mp hzero) positive
  · dsimp only at h
    rw [hmantissa] at h
    by_cases hcarry : mantissa = top
    · simp only [beq_iff_eq.mpr hcarry, if_true] at h
      split at h
      · exact Or.inr ⟨hcarry, (Option.some.inj h).symm⟩
      · cases h
    · simp only [beq_eq_false_iff_ne.mpr hcarry, Bool.false_eq_true, if_false] at h
      split at h
      · exact Or.inl (Option.some.inj h).symm
      · cases h

/-- A ratio that is at least a power of two stays so when it is rounded. -/
theorem AtLeast.of_ofRatio? {num den power : Nat} {x : Binary64} (positive : 0 < den)
    (h : 2 ^ power * den ≤ num) (rounded : ofRatio? num den = some x) : x.AtLeast (2 ^ power) := by
  have hnum : num ≠ 0 := by
    have hproduct : 0 < 2 ^ power * den := Nat.mul_pos (Nat.pow_pos (by decide)) positive
    omega
  have hmantissa := le_mantissa positive h
  rw [AtLeast, ratio_eq]
  rcases ofRatio?_eq_some hnum rfl rfl rounded with rfl | ⟨hcarry, rfl⟩
  · exact hmantissa
  · rw [hcarry] at hmantissa
    exact le_carried hmantissa

theorem ratio_den_pos (x : Binary64) : 0 < x.ratio.2 := by
  rw [ratio_eq]
  exact Nat.pow_pos (by decide)

/-- Multiplying by a power of ten multiplies powers of two that are reached. -/
theorem AtLeast.timesPowerOfTen? {x y : Binary64} {tens power ten : Nat}
    (h : x.AtLeast (2 ^ power)) (hten : 2 ^ ten ≤ 10 ^ tens)
    (product : x.timesPowerOfTen? tens = some y) : y.AtLeast (2 ^ (power + ten)) := by
  obtain ⟨factor, hfactor, hproduct⟩ := Option.bind_eq_some_iff.mp product
  have hrounded : factor.AtLeast (2 ^ ten) :=
    AtLeast.of_ofRatio? Nat.one_pos (by rw [mul_one]; exact hten) hfactor
  refine AtLeast.of_ofRatio? (Nat.mul_pos x.ratio_den_pos factor.ratio_den_pos) ?_ hproduct
  calc 2 ^ (power + ten) * (x.ratio.2 * factor.ratio.2)
      = 2 ^ power * x.ratio.2 * (2 ^ ten * factor.ratio.2) := by ring
    _ ≤ x.ratio.1 * factor.ratio.1 := Nat.mul_le_mul h hrounded

theorem AtLeast.isZero {x : Binary64} {power : Nat} (h : x.AtLeast (2 ^ power)) :
    x.isZero = false := by
  rw [AtLeast, ratio_eq] at h
  have hbound : 0 < 2 ^ power * 2 ^ (-x.exponent).toNat :=
    Nat.mul_pos (Nat.pow_pos (by decide)) (Nat.pow_pos (by decide))
  have hmantissa : x.mantissa ≠ 0 := by
    intro hzero
    rw [hzero, zero_mul] at h
    exact absurd h hbound.not_ge
  simpa [Binary64.isZero] using hmantissa

/-- A decimal number without a fraction is at least the product of two powers of two, one that its
digits reach and one that its power of ten reaches. -/
theorem AtLeast.of_ofDecimal? {significand tens power ten : Nat} {x : Binary64}
    (hsignificand : 2 ^ power ≤ significand) (hten : 2 ^ ten ≤ 10 ^ tens)
    (h : ofDecimal? significand tens = some x) : x.AtLeast (2 ^ (power + ten)) := by
  obtain ⟨digits, hdigits, hscaled⟩ := Option.bind_eq_some_iff.mp h
  have hreached : digits.AtLeast (2 ^ power) :=
    AtLeast.of_ofRatio? Nat.one_pos (by rw [mul_one]; exact hsignificand) hdigits
  have hnonneg : (0 : Int) ≤ tens := Int.natCast_nonneg tens
  rw [scale?, scaleWithin?, Int.natAbs_natCast] at hscaled
  by_cases hsmall : tens ≤ 308
  · rw [if_pos hsmall, if_pos hnonneg] at hscaled
    exact hreached.timesPowerOfTen? hten hscaled
  · rw [if_neg hsmall, if_neg (by simp [hreached.isZero]), if_pos hnonneg] at hscaled
    cases hscaled

/-- The whole part of a number that is at least a bound is on the far side of it. -/
theorem AtLeast.truncate {x : Binary64} {bound : Nat} (h : x.AtLeast bound) (negative : Bool) :
    if negative then ({ x with negative := true } : Binary64).truncate ≤ -(bound : Int)
    else (bound : Int) ≤ ({ x with negative := false } : Binary64).truncate := by
  have hwhole : bound ≤ x.ratio.1 / x.ratio.2 := (Nat.le_div_iff_mul_le x.ratio_den_pos).mpr h
  cases negative with
  | true =>
    show -((x.ratio.1 / x.ratio.2 : Nat) : Int) ≤ -(bound : Int)
    omega
  | false =>
    show (bound : Int) ≤ ((x.ratio.1 / x.ratio.2 : Nat) : Int)
    omega

end Binary64

end RelyingParty.Numeric
