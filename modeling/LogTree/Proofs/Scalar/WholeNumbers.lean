import LogTree.Proofs.Number.Exactness
import LogTree.Proofs.Scalar.Grouping

/-!
# Whole numbers in two types

An integer and a floating point number of the same value are written alike in fixed point and with
an exponent, although the decimals of the one are zeros that are put behind its digits, and those of
the other come from rounding a ratio.
-/

namespace LogTree

namespace FloatDatum

/-- The number that a finite datum stands for. -/
def value? : FloatDatum → Option ℚ
  | .finite negative magnitude => some (if negative then -magnitude.value else magnitude.value)
  | _ => none

end FloatDatum

theorem Dyadic.value_nonneg (number : Dyadic) : 0 ≤ number.value :=
  mul_nonneg (Nat.cast_nonneg _) (zpow_nonneg (by norm_num) _)

namespace Integer

variable {integer : Integer} {negative : Bool} {magnitude : Dyadic}

/-- A finite datum holds an integer: it stands for the same number, and for zero without a sign. -/
structure HeldBy (integer : Integer) (negative : Bool) (magnitude : Dyadic) : Prop where
  /-- The magnitudes are the same. -/
  magnitude_eq : magnitude.value = integer.magnitude
  /-- The sign is that of the integer. -/
  negative_iff : negative ↔ integer.value < 0

theorem heldBy_of_value?
    (same : (FloatDatum.finite negative magnitude).value? = some (integer.value : ℚ))
    (unsigned : integer.value = 0 → negative = false) : integer.HeldBy negative magnitude := by
  have equal : (if negative then -magnitude.value else magnitude.value) = (integer.value : ℚ) :=
    Option.some.inj same
  have nonneg := magnitude.value_nonneg
  have absolute : (integer.magnitude : ℚ) = |(integer.value : ℚ)| := by
    rw [Integer.magnitude_eq, Nat.cast_natAbs, Int.cast_abs]
  cases negative with
  | false =>
    rw [if_neg Bool.false_ne_true] at equal
    have least : (0 : ℚ) ≤ integer.value := equal ▸ nonneg
    refine ⟨by rw [absolute, ← equal, abs_of_nonneg nonneg], iff_of_false Bool.false_ne_true ?_⟩
    exact not_lt.mpr (by exact_mod_cast least)
  | true =>
    rw [if_pos rfl] at equal
    have greatest : (integer.value : ℚ) ≤ 0 := equal ▸ neg_nonpos.mpr nonneg
    have nonzero : integer.value ≠ 0 := fun zero => Bool.noConfusion (unsigned zero)
    refine ⟨by rw [absolute, ← equal, abs_neg, abs_of_nonneg nonneg], iff_of_true rfl ?_⟩
    exact lt_of_le_of_ne (by exact_mod_cast greatest) nonzero

theorem HeldBy.sign_eq (held : integer.HeldBy negative magnitude) :
    FloatDatum.signText negative = integer.sign := by
  simp only [FloatDatum.signText, Integer.sign_eq, held.negative_iff]

/-- A number below zero has a mantissa, so its sign is shown in fixed point as well. -/
theorem HeldBy.mantissa_ne_zero (held : integer.HeldBy negative magnitude) (below : negative) :
    magnitude.mantissa ≠ 0 := by
  intro zero
  have none : (integer.magnitude : ℚ) = 0 := by
    rw [← held.magnitude_eq, Dyadic.value, zero, Nat.cast_zero, zero_mul]
  have value := held.negative_iff.mp below
  rw [Nat.cast_eq_zero, Integer.magnitude_eq] at none
  omega

theorem HeldBy.fixedDigits?_eq (held : integer.HeldBy negative magnitude) (places : Nat) :
    (FloatDatum.finite negative magnitude).fixedDigits? places =
      some (integer.fixedDigits places) := by
  obtain ⟨factor, positive, ratio⟩ := Dyadic.exists_ratio_eq_times held.magnitude_eq
  have digits : magnitude.ratio.fixed places =
      (Digits.decimal integer.magnitude, List.replicate places '0') := by
    rw [ratio, Ratio.fixed_times _ positive, Ratio.fixed_ofNat]
  have sign : (negative && magnitude.mantissa ≠ 0) = decide (integer.value < 0) := by
    have shown := held.mantissa_ne_zero
    have below := held.negative_iff
    cases negative <;> simp_all
  apply congrArg some
  apply FixedDigits.ext
  · exact sign
  · exact congrArg Prod.fst digits
  · exact congrArg Prod.snd digits

theorem HeldBy.exponentialText_eq (held : integer.HeldBy negative magnitude)
    (fits : BinaryFormat.double.Fits magnitude) (separators : Separators) (upper : Bool)
    (places : Nat) :
    exponentialText separators upper places magnitude.ratio =
      exponentialText separators upper places
        (.ofNat (BinaryFormat.double.nearest integer.magnitude)) := by
  obtain ⟨factor, positive, ratio⟩ := Dyadic.exists_ratio_eq_times held.magnitude_eq
  rw [BinaryFormat.nearest_eq_self fits held.magnitude_eq, exponentialText, exponentialText, ratio,
    Ratio.significant_times _ positive]

/-- A finite number of the 64-bit format is written as the integer that it holds. -/
theorem HeldBy.formatted?_eq (held : integer.HeldBy negative magnitude)
    (fits : BinaryFormat.double.Fits magnitude) (separators : Separators) {format : NumericFormat}
    (suited : NumericFormat.suitsFloats format.style) :
    (FloatDatum.finite negative magnitude).formatted? separators format =
      some (integer.formatted separators format) := by
  obtain ⟨style, precision⟩ := format
  cases style with
  | fixed grouped =>
    rw [FloatDatum.formatted?_fixed, held.fixedDigits?_eq, Option.map_some, integer.formatted_fixed]
  | exponential upper =>
    change some (FloatDatum.signText negative ++ _) = some (integer.sign ++ _)
    rw [held.sign_eq, held.exponentialText_eq fits]
  | digits => cases suited
  | hex upper => cases suited

end Integer

namespace Scalar

open NumericFormat

/-- An integer is rendered in fixed point, with groups or without, and with an exponent as the
64-bit number of the same value is, which is the positive one for zero. -/
theorem render_integer_eq_double (integer : Integer) (bits : UInt64)
    (same : (doubleDatum bits).value? = some (integer.value : ℚ))
    (unsigned : integer.value = 0 → bits = 0) (text : String) (format : NumericFormat)
    (documented : Documented floatLetters text format) (provider : Option Separators) :
    (atom (.integer integer)).render (some text) provider =
      (atom (.double bits)).render (some text) provider := by
  obtain ⟨understood, suited⟩ := understood_floatLetters_iff.mp (Or.inl documented)
  cases read : doubleDatum bits with
  | notANumber => simp [read, FloatDatum.value?] at same
  | infinite => simp [read, FloatDatum.value?] at same
  | finite negative magnitude =>
    have positive : integer.value = 0 → negative = false := by
      intro zero
      rw [unsigned zero] at read
      cases read
      rfl
    have held := Integer.heldBy_of_value? (read ▸ same) positive
    have fits := BinaryFormat.fits_of_decode (by decide) read
    have float : (atom (.double bits)).float? = some (.finite negative magnitude) :=
      congrArg some read
    rw [render_integer rfl understood,
      render_float float understood (held.formatted?_eq fits (separatorsOf provider) suited)]

/-- A power of two beyond 64 bits that both types hold. -/
theorem render_integer_eq_double_power :
    (doubleDatum 0xc630000000000000).value? =
      some ((-1267650600228229401496703205376 : Int) : ℚ) ∧
    Documented floatLetters "N0" ⟨.fixed true, some 0⟩ ∧
    (atom (.integer ⟨.int .bits128, -1267650600228229401496703205376, by decide⟩)).render
      (some "N0") none = "-1,267,650,600,228,229,401,496,703,205,376" ∧
    (atom (.double 0xc630000000000000)).render (some "N0") none =
      "-1,267,650,600,228,229,401,496,703,205,376" := by
  have same : (doubleDatum 0xc630000000000000).value? =
      some ((-1267650600228229401496703205376 : Int) : ℚ) := by
    have read : doubleDatum 0xc630000000000000 = .finite true ⟨4503599627370496, 48⟩ := by decide
    have magnitude : Dyadic.value ⟨4503599627370496, 48⟩ =
        (1267650600228229401496703205376 : Nat) := Dyadic.value_eq_natCast_iff.mpr (by decide)
    rw [read, FloatDatum.value?, magnitude]
    norm_num
  have documented : Documented floatLetters "N0" ⟨.fixed true, some 0⟩ :=
    ⟨'N', by decide, ['0'], rfl, rfl, .number (by simp) (by simp) (by decide)⟩
  have agree := render_integer_eq_double
    ⟨.int .bits128, -1267650600228229401496703205376, by decide⟩ 0xc630000000000000
    same (fun zero => absurd zero (by decide)) "N0" ⟨.fixed true, some 0⟩ documented none
  have shown : (atom (.integer ⟨.int .bits128, -1267650600228229401496703205376,
      by decide⟩)).render (some "N0") none = "-1,267,650,600,228,229,401,496,703,205,376" := by
    decide
  exact ⟨same, documented, shown, agree.symm.trans shown⟩

end Scalar

end LogTree
