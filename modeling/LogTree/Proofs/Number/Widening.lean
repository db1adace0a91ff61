import LogTree.Scalar.Basic
import Mathlib.Algebra.Order.Field.Rat
import Mathlib.Tactic.FieldSimp

/-!
# Widening floating point numbers

A finite number of the 32-bit format is also one of the 64-bit format: its mantissa, shifted until
it fills the precision, has a bit pattern there, which reads back as the same number.
-/

namespace LogTree

attribute [local instance (high)] instPowNat

namespace BinaryFormat

/-- The bit pattern with a sign, a stored exponent and the stored bits of a significand. -/
def pattern (format : BinaryFormat) (negative : Bool) (stored fraction : Nat) : Nat :=
  (negative.toNat * 2 ^ format.exponentBits + stored) * 2 ^ format.fractionBits + fraction

/-- Three fields are read back from the number that they are packed into. -/
private theorem fields_of_packed (high : Nat) {middle low width depth : Nat} (low_lt : low < width)
    (middle_lt : middle < depth) :
    ((high * depth + middle) * width + low) % width = low ∧
      ((high * depth + middle) * width + low) / width % depth = middle ∧
      ((high * depth + middle) * width + low) / (width * depth) = high := by
  have upper : ((high * depth + middle) * width + low) / width = high * depth + middle := by
    rw [Nat.add_comm, Nat.add_mul_div_right _ _ (by omega), Nat.div_eq_of_lt low_lt, Nat.zero_add]
  refine ⟨?_, ?_, ?_⟩
  · rw [Nat.add_comm, Nat.add_mul_mod_self_right, Nat.mod_eq_of_lt low_lt]
  · rw [upper, Nat.add_comm, Nat.add_mul_mod_self_right, Nat.mod_eq_of_lt middle_lt]
  · rw [← Nat.div_div_eq_div_mul, upper, Nat.add_comm, Nat.add_mul_div_right _ _ (by omega),
      Nat.div_eq_of_lt middle_lt, Nat.zero_add]

theorem decode_pattern {format : BinaryFormat} (negative : Bool) {stored fraction : Nat}
    (stored_lt : stored + 1 < 2 ^ format.exponentBits)
    (fraction_lt : fraction < 2 ^ format.fractionBits) :
    format.decode (format.pattern negative stored fraction) =
      .finite negative (if stored = 0 then ⟨fraction, format.leastExponent⟩
        else ⟨fraction + 2 ^ format.fractionBits,
          format.leastExponent + (stored - 1 : Nat)⟩) := by
  obtain ⟨low, middle, high⟩ := fields_of_packed negative.toNat fraction_lt
    (show stored < 2 ^ format.exponentBits by omega)
  have finite : stored ≠ 2 ^ format.exponentBits - 1 := by omega
  have sign : decide (negative.toNat % 2 = 1) = negative := by cases negative <;> rfl
  rw [decode, pattern, Nat.pow_add]
  simp only [low, middle, high, sign, if_neg finite]
  split <;> rfl

/-- A format has a bit pattern for a number as it is written: the mantissa fills the precision, or
the exponent is the least one. -/
structure Fits (format : BinaryFormat) (number : Dyadic) : Prop where
  /-- The mantissa is within the precision. -/
  precise : number.mantissa < 2 * 2 ^ format.fractionBits
  /-- The exponent is not too small. -/
  least : format.leastExponent ≤ number.exponent
  /-- The exponent is not too great. -/
  greatest : (number.exponent - format.leastExponent).toNat + 2 < 2 ^ format.exponentBits
  /-- Only with the least exponent the mantissa may be smaller than the precision. -/
  full : 2 ^ format.fractionBits ≤ number.mantissa ∨ number.exponent = format.leastExponent

theorem fits_of_decode {format : BinaryFormat} (room : 2 < 2 ^ format.exponentBits) {bits : Nat}
    {negative : Bool} {number : Dyadic} (read : format.decode bits = .finite negative number) :
    format.Fits number := by
  have fraction_lt := Nat.mod_lt bits (Nat.two_pow_pos format.fractionBits)
  have stored_lt := Nat.mod_lt (bits / 2 ^ format.fractionBits)
    (Nat.two_pow_pos format.exponentBits)
  rw [decode] at read
  split at read
  · split at read <;> contradiction
  · split at read
    · cases read
      exact ⟨by dsimp only; omega, by dsimp only; omega, by dsimp only; omega, .inr rfl⟩
    · cases read
      exact ⟨by dsimp only; omega, by dsimp only; omega, by dsimp only; omega,
        .inl (by dsimp only; omega)⟩

/-- The bit pattern of a number with a sign. -/
def encode (format : BinaryFormat) (negative : Bool) (number : Dyadic) : Nat :=
  if number.mantissa < 2 ^ format.fractionBits then format.pattern negative 0 number.mantissa
  else format.pattern negative ((number.exponent - format.leastExponent).toNat + 1)
    (number.mantissa - 2 ^ format.fractionBits)

/-- The bit pattern of a number reads back as the number. -/
theorem decode_encode {format : BinaryFormat} (negative : Bool) {number : Dyadic}
    (fits : format.Fits number) :
    format.decode (format.encode negative number) = .finite negative number := by
  obtain ⟨precise, least, greatest, full⟩ := fits
  rw [encode]
  split
  next small =>
    have lowest : number.exponent = format.leastExponent := by
      rcases full with large | lowest
      · omega
      · exact lowest
    rw [decode_pattern negative (by omega) small, if_pos rfl, ← lowest]
  next large =>
    have fraction_lt : number.mantissa - 2 ^ format.fractionBits < 2 ^ format.fractionBits := by
      omega
    rw [decode_pattern negative (by omega) fraction_lt, if_neg (by omega)]
    have mantissa : number.mantissa - 2 ^ format.fractionBits + 2 ^ format.fractionBits =
        number.mantissa := by omega
    have exponent : format.leastExponent +
        (((number.exponent - format.leastExponent).toNat + 1 - 1 : Nat) : Int) =
        number.exponent := by omega
    rw [mantissa, exponent]

theorem encode_lt {format : BinaryFormat} (negative : Bool) {number : Dyadic}
    (fits : format.Fits number) :
    format.encode negative number < 2 * 2 ^ format.exponentBits * 2 ^ format.fractionBits := by
  obtain ⟨precise, -, greatest, -⟩ := fits
  have pattern_lt {stored fraction : Nat} (stored_lt : stored < 2 ^ format.exponentBits)
      (fraction_lt : fraction < 2 ^ format.fractionBits) :
      format.pattern negative stored fraction <
        2 * 2 ^ format.exponentBits * 2 ^ format.fractionBits := by
    have upper : negative.toNat * 2 ^ format.exponentBits + stored + 1 ≤
        2 * 2 ^ format.exponentBits := by
      cases negative
      · rw [Bool.toNat_false]; omega
      · rw [Bool.toNat_true]; omega
    have scaled := Nat.mul_le_mul_right (2 ^ format.fractionBits) upper
    rw [Nat.succ_mul] at scaled
    rw [pattern]
    omega
  rw [encode]
  split
  next small => exact pattern_lt (by omega) small
  next large => exact pattern_lt (by omega) (by omega)

/-- A mantissa of few bits is shifted until it fills a precision. -/
private theorem shifted_bounds {mantissa precision : Nat} (positive : mantissa ≠ 0)
    (few : mantissa.log2 ≤ precision) :
    2 ^ precision ≤ mantissa * 2 ^ (precision - mantissa.log2) ∧
      mantissa * 2 ^ (precision - mantissa.log2) < 2 * 2 ^ precision := by
  have split_power : 2 ^ precision =
      2 ^ mantissa.log2 * 2 ^ (precision - mantissa.log2) := by
    rw [← Nat.pow_add, Nat.add_sub_cancel' few]
  have below : 2 ^ mantissa.log2 ≤ mantissa := Nat.log2_self_le positive
  have above : mantissa < 2 * 2 ^ mantissa.log2 := by
    have greater := Nat.lt_log2_self (n := mantissa)
    rwa [Nat.pow_succ, Nat.mul_comm] at greater
  rw [split_power, ← Nat.mul_assoc]
  exact ⟨Nat.mul_le_mul_right _ below,
    Nat.mul_lt_mul_of_pos_right above (Nat.two_pow_pos _)⟩

/-- Every number of the 32-bit format has a bit pattern of the 64-bit format when it is widened. -/
theorem fits_widened {number : Dyadic} (fits : single.Fits number) :
    double.Fits (double.widened number) := by
  obtain ⟨precise, least, greatest, -⟩ := fits
  have precise : number.mantissa < 2 ^ 24 := precise
  have least : -149 ≤ number.exponent := least
  have greatest : (number.exponent - -149).toNat + 2 < 256 := greatest
  rw [widened]
  split
  next zero => exact ⟨by decide, by decide, by decide, .inr rfl⟩
  next positive =>
    have few : number.mantissa.log2 < 24 := (Nat.log2_lt positive).mpr precise
    obtain ⟨full, small⟩ := shifted_bounds positive (show number.mantissa.log2 ≤ 52 by omega)
    refine ⟨small, ?_, ?_, .inl full⟩
    · show -1074 ≤ number.exponent - ((52 - number.mantissa.log2 : Nat) : Int)
      omega
    · show (number.exponent - ((52 - number.mantissa.log2 : Nat) : Int) - -1074).toNat + 2 < 2048
      omega

end BinaryFormat

/-- The number that a mantissa and an exponent stand for. -/
def Dyadic.value (number : Dyadic) : ℚ :=
  number.mantissa * (2 : ℚ) ^ number.exponent

/-- Widening does not change the number. -/
theorem BinaryFormat.value_widened (format : BinaryFormat) (number : Dyadic) :
    (format.widened number).value = number.value := by
  rw [widened]
  split
  next zero => simp [Dyadic.value, zero]
  next positive =>
    have two_ne_zero : (2 : ℚ) ≠ 0 := by norm_num
    rw [Dyadic.value, Dyadic.value, Nat.cast_mul, Nat.cast_pow, zpow_sub₀ two_ne_zero,
      zpow_natCast, Nat.cast_ofNat]
    field_simp

/-- The 64-bit pattern of the number that a 32-bit pattern stands for. -/
def widenedBits (negative : Bool) (magnitude : Dyadic) : UInt64 :=
  .ofNat (BinaryFormat.double.encode negative (BinaryFormat.double.widened magnitude))

theorem doubleDatum_widenedBits {bits : UInt32} {negative : Bool} {magnitude : Dyadic}
    (finite : singleDatum bits = .finite negative magnitude) :
    doubleDatum (widenedBits negative magnitude) =
      .finite negative (BinaryFormat.double.widened magnitude) := by
  have fits := BinaryFormat.fits_widened (BinaryFormat.fits_of_decode (by decide) finite)
  have small : BinaryFormat.double.encode negative (BinaryFormat.double.widened magnitude) <
      2 ^ 64 := BinaryFormat.encode_lt negative fits
  rw [doubleDatum, widenedBits, UInt64.toNat_ofNat_of_lt' small]
  exact BinaryFormat.decode_encode negative fits

end LogTree
