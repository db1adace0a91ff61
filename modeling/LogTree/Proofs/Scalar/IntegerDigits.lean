import LogTree.Proofs.Number.Numerals
import LogTree.Proofs.Scalar.NumericFormats
import Mathlib

/-!
# Digits of integers

The formats that write the digits of an integer lose nothing of it. Decimal digits read back as the
integer, and hexadecimal digits as the bit pattern that stands for it in its type. This holds for
the least integer of a type as well, whose magnitude the type does not hold.

Decimal digits are read by the standard reader of integers. What is known of it is imported by no
module below `Mathlib` itself.
-/

namespace LogTree

attribute [local instance (high)] instPowNat

namespace Digits

theorem toNat?_zeroPadded (width value : Nat) :
    (String.ofList (zeroPadded width value)).toNat? = some value := by
  have numeral : (String.ofList (zeroPadded width value)).isNat := by
    apply String.isNat_of_isDigit
    · simpa [← String.toList_inj] using zeroPadded_ne_nil width value
    · rw [String.toList_ofList]
      exact fun digit => isDigit_of_mem_zeroPadded
  have unbroken : '_' ∉ zeroPadded width value :=
    fun among => absurd (isDigit_of_mem_zeroPadded among) (by decide)
  rw [String.toNat?_eq_some_ofDigitChars numeral, String.toList_ofList,
    List.filter_bne_eq_self_of_not_mem unbroken, ofDigitChars_zeroPadded]

/-- A minus sign and the digits of the magnitude denote the number, also behind leading zeros. -/
theorem toInt?_zeroPadded (width : Nat) (value : Int) :
    (String.ofList ((if value < 0 then ['-'] else []) ++
      zeroPadded width value.natAbs)).toInt? = some value := by
  have magnitude := toNat?_zeroPadded width value.natAbs
  rw [String.toInt?_eq_some_iff]
  split
  · exact Or.inr ⟨_, String.ofList_append, value.natAbs, magnitude, by omega⟩
  · exact Or.inl ⟨value.natAbs, magnitude, by omega⟩

end Digits

namespace Scalar

open NumericFormat

/-- An integer in decimal digits has a minus sign exactly if it is below zero, and reads back. In
hexadecimal digits it shows its bit pattern, which stands for the integer in its type. In both cases
zeros fill the digits up to the precision, and not beyond. -/
theorem render_integer_digits (integer : Integer) (text : String) (precision : Option Nat)
    (provider : Option Separators) :
    (Documented integerLetters text ⟨.digits, precision⟩ →
      ∃ digits, (atom (.integer integer)).render (some text) provider =
          String.ofList ((if integer.value < 0 then ['-'] else []) ++ digits) ∧
        Digits.FillsTo (precision.getD 0) (Digits.decimal integer.value.natAbs) digits ∧
        ((atom (.integer integer)).render (some text) provider).toInt? = some integer.value) ∧
    ∀ upper, Documented integerLetters text ⟨.hex upper, precision⟩ →
      ∃ digits, (atom (.integer integer)).render (some text) provider = String.ofList digits ∧
        Digits.FillsTo (precision.getD 0)
          (Digits.hex upper (integer.value % 2 ^ integer.type.bits).toNat) digits ∧
        ∃ bits : BitVec integer.type.bits, Hex.number? digits = some bits.toNat ∧
          integer.type.ofBits bits = integer.value := by
  refine ⟨fun documented => ?_, fun upper documented => ?_⟩
  · have shown : (atom (.integer integer)).render (some text) provider = String.ofList
        ((if integer.value < 0 then ['-'] else []) ++
          Digits.zeroPadded (precision.getD 0) integer.value.natAbs) := by
      rw [← integer.sign_eq, ← integer.magnitude_eq]
      exact render_integer rfl (Or.inl documented) provider
    refine ⟨_, shown, Digits.fillsTo_padded _ _, ?_⟩
    rw [shown]
    exact Digits.toInt?_zeroPadded (precision.getD 0) integer.value
  · have shown : (atom (.integer integer)).render (some text) provider = String.ofList
        (Digits.padded (precision.getD 0) '0' (Digits.hex upper integer.pattern)) := by
      rw [render_integer rfl (Or.inl documented)]
      cases upper <;> rfl
    have bits : integer.pattern = (integer.value % 2 ^ integer.type.bits).toNat := by
      rw [integer.pattern_eq, BitVec.toNat_ofInt, Int.natCast_pow]
      rfl
    refine ⟨_, shown, bits ▸ Digits.fillsTo_padded _ _, .ofInt _ integer.value, ?_,
      IntegerType.ofBits_ofInt integer.held⟩
    rw [Hex.number?_padded_hex, integer.pattern_eq]

/-- The least integer of 128 bits is shown in full by both kinds of digits. -/
theorem render_integer_digits_least :
    Documented integerLetters "D40" ⟨.digits, some 40⟩ ∧
    (atom (.integer ⟨.int .bits128, -2 ^ 127, by decide⟩)).render (some "D40") none =
      "-0170141183460469231731687303715884105728" ∧
    ((atom (.integer ⟨.int .bits128, -2 ^ 127, by decide⟩)).render (some "D40") none).toInt? =
      some (-2 ^ 127) ∧
    Documented integerLetters "x" ⟨.hex false, none⟩ ∧
    ∃ digits, (atom (.integer ⟨.int .bits128, -2 ^ 127, by decide⟩)).render (some "x") none =
        String.ofList digits ∧ digits = '8' :: List.replicate 31 '0' ∧
      ∃ bits : BitVec 128, Hex.number? digits = some bits.toNat ∧
        (IntegerType.int .bits128).ofBits bits = -2 ^ 127 := by
  have decimal : Documented integerLetters "D40" ⟨.digits, some 40⟩ :=
    ⟨'D', by decide, ['4', '0'], rfl, rfl, .number (by simp) (by simp) (by decide)⟩
  have hexadecimal : Documented integerLetters "x" ⟨.hex false, none⟩ :=
    ⟨'x', by decide, [], rfl, rfl, .nothing⟩
  obtain ⟨-, -, -, back⟩ := (render_integer_digits ⟨.int .bits128, -2 ^ 127, by decide⟩ "D40"
    (some 40) none).1 decimal
  obtain ⟨digits, shown, -, bits⟩ := (render_integer_digits ⟨.int .bits128, -2 ^ 127, by decide⟩
    "x" none none).2 false hexadecimal
  refine ⟨decimal, by decide, back, hexadecimal, digits, shown, ?_, bits⟩
  rw [← String.ofList_inj, ← shown]
  decide

end Scalar

end LogTree
