import LogTree.Number.Format
import LogTree.Proofs.Number.Widening

/-!
# Numbers that are kept exactly

A common factor of numerator and denominator makes no difference to the decimals of a ratio. A
natural number that is the value of a floating point number is a ratio of its own up to such a
factor, and rounding to the precision of the format leaves it as it is.
-/

namespace LogTree

attribute [local instance (high)] instPowNat

namespace Ratio

/-- The same ratio with a common factor in its numerator and its denominator. -/
def times (ratio : Ratio) (factor : Nat) : Ratio :=
  ⟨ratio.numerator * factor, ratio.denominator * factor⟩

variable {factor : Nat}

theorem scaled_times (ratio : Ratio) (factor : Nat) (power : Int) :
    (ratio.times factor).scaled power = (ratio.scaled power).times factor := by
  rw [scaled, scaled]
  split
  · rw [times, times, Nat.mul_right_comm]
  · rw [times, times, Nat.mul_right_comm]

theorem rounded_times (ratio : Ratio) (positive : 0 < factor) :
    (ratio.times factor).rounded = ratio.rounded := by
  have half_below (left right : Nat) :
      2 * (left * factor) < right * factor ↔ 2 * left < right := by
    rw [← Nat.mul_assoc]
    exact Nat.mul_lt_mul_right positive
  have half (left right : Nat) : 2 * (left * factor) = right * factor ↔ 2 * left = right := by
    rw [← Nat.mul_assoc]
    exact Nat.mul_left_inj (Nat.ne_of_gt positive)
  simp only [rounded, times, Nat.mul_div_mul_right _ _ positive, Nat.mul_mod_mul_right, half_below,
    half]

theorem leadingPower_times (ratio : Ratio) (positive : 0 < factor) :
    (ratio.times factor).leadingPower = ratio.leadingPower := by
  have above : (ratio.denominator * factor - 1) / (ratio.numerator * factor) =
      (ratio.denominator - 1) / ratio.numerator := by
    have inner : (ratio.denominator * factor - 1) / factor = ratio.denominator - 1 := by
      cases ratio.denominator with
      | zero => rw [Nat.zero_mul, Nat.zero_sub, Nat.zero_div]
      | succ smaller =>
        rw [Nat.succ_mul, Nat.add_sub_assoc positive, Nat.add_comm,
          Nat.add_mul_div_right _ _ positive, Nat.div_eq_of_lt (by omega)]
        omega
    rw [Nat.mul_comm ratio.numerator, ← Nat.div_div_eq_div_mul, inner]
  simp only [leadingPower, times, Nat.mul_le_mul_right_iff positive,
    Nat.mul_div_mul_right _ _ positive, above]

theorem fixed_times (ratio : Ratio) (positive : 0 < factor) (places : Nat) :
    (ratio.times factor).fixed places = ratio.fixed places := by
  simp only [fixed, scaled_times, rounded_times _ positive]

theorem significant_times (ratio : Ratio) (positive : 0 < factor) (further : Nat) :
    (ratio.times factor).significant further = ratio.significant further := by
  have zero : (ratio.times factor).numerator = 0 ↔ ratio.numerator = 0 := by
    rw [times, Nat.mul_eq_zero]
    omega
  simp only [significant, zero, leadingPower_times _ positive, scaled_times,
    rounded_times _ positive]

theorem rounded_of_dvd {numerator denominator : Nat} (positive : 0 < denominator)
    (whole : denominator ∣ numerator) :
    rounded ⟨numerator, denominator⟩ = numerator / denominator := by
  have exact : numerator % denominator = 0 := Nat.mod_eq_zero_of_dvd whole
  simp [rounded, exact, positive]

theorem fixed_ofNat (value places : Nat) :
    (ofNat value).fixed places = (Digits.decimal value, List.replicate places '0') := by
  have power : 0 < 10 ^ places := Nat.pow_pos (by decide)
  have units : ((ofNat value).scaled places).rounded = value * 10 ^ places := by
    rw [scaled, if_pos (Int.natCast_nonneg places), Int.toNat_natCast, ofNat,
      rounded_of_dvd Nat.one_pos (Nat.one_dvd _), Nat.div_one]
  rw [fixed, units, Nat.mul_div_cancel _ power, Nat.mul_mod_left]
  cases places with
  | zero => rfl
  | succ places => simp [Digits.zeroPadded, Digits.padded, Digits.decimal, List.replicate_succ']

end Ratio

namespace Dyadic

theorem ratio_eq (number : Dyadic) :
    number.ratio =
      ⟨number.mantissa * 2 ^ number.exponent.toNat, 2 ^ (-number.exponent).toNat⟩ := by
  rw [ratio]
  split
  next nonnegative =>
    have shift : (-number.exponent).toNat = 0 := by omega
    rw [shift, Nat.pow_zero]
  next negative =>
    have shift : number.exponent.toNat = 0 := by omega
    rw [shift, Nat.pow_zero, Nat.mul_one]

/-- A natural number as the value of a mantissa and an exponent, in whole numbers. -/
theorem value_eq_natCast_iff {number : Dyadic} {value : Nat} :
    number.value = value ↔
      value * 2 ^ (-number.exponent).toNat = number.mantissa * 2 ^ number.exponent.toNat := by
  obtain ⟨mantissa, exponent⟩ := number
  obtain ⟨shift, rfl | rfl⟩ := exponent.eq_nat_or_neg
  · simp only [Dyadic.value, zpow_natCast, Int.toNat_natCast, Int.toNat_neg_natCast]
    norm_cast
    simp [eq_comm]
  · simp only [Dyadic.value, zpow_neg, zpow_natCast, Int.toNat_natCast, Int.toNat_neg_natCast,
      neg_neg]
    rw [mul_inv_eq_iff_eq_mul₀ (pow_ne_zero shift two_ne_zero)]
    norm_cast
    simp [eq_comm]

/-- A number that is a natural number is the ratio of that number, up to a common factor. -/
theorem exists_ratio_eq_times {number : Dyadic} {value : Nat} (exact : number.value = value) :
    ∃ factor > 0, number.ratio = (Ratio.ofNat value).times factor := by
  refine ⟨2 ^ (-number.exponent).toNat, Nat.two_pow_pos _, ?_⟩
  rw [ratio_eq, Ratio.times, Ratio.ofNat, value_eq_natCast_iff.mp exact, Nat.one_mul]

end Dyadic

namespace BinaryFormat

theorem nearest_of_dvd (format : BinaryFormat) {value : Nat}
    (whole : 2 ^ (value.log2 - format.fractionBits) ∣ value) : format.nearest value = value := by
  rw [nearest, Ratio.rounded_of_dvd (Nat.two_pow_pos _) whole, Nat.div_mul_cancel whole]

/-- Rounding keeps a natural number that is the value of a number of the format. -/
theorem nearest_eq_self {format : BinaryFormat} {number : Dyadic} (fits : format.Fits number)
    {value : Nat} (exact : number.value = value) : format.nearest value = value := by
  have scaled := Dyadic.value_eq_natCast_iff.mp exact
  apply nearest_of_dvd
  obtain ⟨mantissa, exponent⟩ := number
  have precise : mantissa < 2 * 2 ^ format.fractionBits := fits.precise
  by_cases zero : value = 0
  · rw [zero]
    exact Nat.dvd_zero _
  · have above : value < 2 ^ (format.fractionBits + 1 + exponent.toNat) :=
      calc value
        _ ≤ value * 2 ^ (-exponent).toNat := Nat.le_mul_of_pos_right value (Nat.two_pow_pos _)
        _ = mantissa * 2 ^ exponent.toNat := scaled
        _ < 2 * 2 ^ format.fractionBits * 2 ^ exponent.toNat :=
          Nat.mul_lt_mul_of_pos_right precise (Nat.two_pow_pos _)
        _ = 2 ^ (format.fractionBits + 1 + exponent.toNat) := by
          rw [Nat.pow_add, Nat.pow_succ, Nat.mul_comm 2]
    have few : value.log2 < format.fractionBits + 1 + exponent.toNat :=
      (Nat.log2_lt zero).mpr above
    rcases Int.le_total 0 exponent with upward | downward
    · have unshifted : (-exponent).toNat = 0 := by omega
      rw [unshifted, Nat.pow_zero, Nat.mul_one] at scaled
      have power : 2 ^ exponent.toNat ∣ value := ⟨mantissa, by rw [scaled, Nat.mul_comm]⟩
      exact Nat.dvd_trans (Nat.pow_dvd_pow 2 (by omega)) power
    · have single : value.log2 - format.fractionBits = 0 := by omega
      rw [single, Nat.pow_zero]
      exact Nat.one_dvd value

end BinaryFormat

end LogTree
