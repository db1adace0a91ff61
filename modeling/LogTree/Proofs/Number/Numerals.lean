import LogTree.Number.Integer
import LogTree.Text.Hex

/-!
# Numerals

What written digits denote. Leading zeros and the case of hexadecimal digits make no difference, and
the bit pattern of an integer stands for the integer in its type.
-/

namespace LogTree

attribute [local instance (high)] instPowNat

namespace Digits

/-- A text is digits behind zeros, of which there are only so many that the width is reached. -/
structure FillsTo (width : Nat) (digits text : List Char) : Prop where
  /-- Nothing but zeros stands before the digits. -/
  zeros : ∃ count, text = List.replicate count '0' ++ digits
  /-- The text is as long as the width, unless the digits alone are longer. -/
  length : text.length = max width digits.length

theorem fillsTo_padded (width : Nat) (digits : List Char) :
    FillsTo width digits (padded width '0' digits) :=
  ⟨⟨width - digits.length, rfl⟩, length_padded width '0' digits⟩

theorem zeroPadded_ne_nil (width value : Nat) : zeroPadded width value ≠ [] := by
  simp [zeroPadded, padded, decimal]

theorem ofDigitChars_zeroPadded (width value : Nat) :
    Nat.ofDigitChars 10 (zeroPadded width value) 0 = value := by
  rw [zeroPadded, padded, Nat.ofDigitChars_append, Nat.ofDigitChars_replicate_zero, Nat.mul_zero,
    decimal, Nat.ofDigitChars_ten_toDigits]

/-- Hexadecimal digits of a natural number in one of the two cases. -/
def hex (upper : Bool) (value : Nat) : List Char :=
  if upper then upperHex value else lowerHex value

end Digits

namespace Hex

theorem digitValue?_digitChar {digit : Nat} (small : digit < 16) :
    digitValue? (Nat.digitChar digit) = some digit ∧
      digitValue? (Nat.digitChar digit).toUpper = some digit := by
  have each : ∀ digit < 16, digitValue? (Nat.digitChar digit) = some digit ∧
      digitValue? (Nat.digitChar digit).toUpper = some digit := by decide
  exact each digit small

/-- The number that a number becomes when further digits are read. -/
def absorb? (value : Nat) (digits : List Char) : Option Nat :=
  digits.foldlM (fun value digit => return 16 * value + (← digitValue? digit)) value

theorem number?_of_ne_nil {digits : List Char} (written : digits ≠ []) :
    number? digits = absorb? 0 digits := by
  rw [number?, if_neg (by simpa using written), absorb?]

theorem absorb?_append (value : Nat) (left right : List Char) :
    absorb? value (left ++ right) = (absorb? value left).bind (absorb? · right) :=
  List.foldlM_append ..

theorem absorb?_singleton {digit : Char} {amount : Nat} (read : digitValue? digit = some amount)
    (value : Nat) : absorb? value [digit] = some (16 * value + amount) := by
  simp [absorb?, read]

theorem absorb?_zeros (count : Nat) : absorb? 0 (List.replicate count '0') = some 0 := by
  induction count with
  | zero => rfl
  | succ count induction =>
    rw [List.replicate_succ', absorb?_append, induction]
    rfl

/-- The digits of a number are read back in every spelling of the sixteen digits. -/
theorem absorb?_toDigits (spelled : Char → Char)
    (read : ∀ digit < 16, digitValue? (spelled (Nat.digitChar digit)) = some digit) (value : Nat) :
    absorb? 0 ((Nat.toDigits 16 value).map spelled) = some value := by
  induction value using Nat.strongRecOn with
  | ind value induction =>
    by_cases small : value < 16
    · rw [Nat.toDigits_of_lt_base small, List.map_singleton, absorb?_singleton (read value small),
        Nat.mul_zero, Nat.zero_add]
    · have shorter := induction (value / 16) (by omega)
      have last := read (value % 16) (Nat.mod_lt value (by decide))
      rw [Nat.toDigits_of_base_le (by decide) (by omega), List.map_append, absorb?_append, shorter,
        List.map_singleton, Option.bind_some, absorb?_singleton last, Nat.div_add_mod]

theorem absorb?_hex (upper : Bool) (value : Nat) :
    absorb? 0 (Digits.hex upper value) = some value := by
  cases upper with
  | true => exact absorb?_toDigits _ (fun digit small => (digitValue?_digitChar small).2) value
  | false =>
    have read := absorb?_toDigits id (fun digit small => (digitValue?_digitChar small).1) value
    rwa [List.map_id] at read

theorem number?_padded_hex (upper : Bool) (width value : Nat) :
    number? (Digits.padded width '0' (Digits.hex upper value)) = some value := by
  have written : Digits.hex upper value ≠ [] := by
    cases upper <;> simp [Digits.hex, Digits.upperHex, Digits.lowerHex]
  rw [number?_of_ne_nil (by simp [Digits.padded, written]), Digits.padded, absorb?_append,
    absorb?_zeros, Option.bind_some, absorb?_hex]

end Hex

theorem IntegerWidth.bits_pos (width : IntegerWidth) : 0 < width.bits := by
  cases width <;> decide

/-- The number of a type that bits stand for: in two's complement if the type is signed. -/
def IntegerType.ofBits (type : IntegerType) (bits : BitVec type.bits) : Int :=
  if type.signed then bits.toInt else bits.toNat

theorem IntegerType.ofBits_ofInt {type : IntegerType} {value : Int} (held : type.Holds value) :
    type.ofBits (BitVec.ofInt type.bits value) = value := by
  have room : 0 < type.bits := type.width.bits_pos
  obtain ⟨least, greatest⟩ := held
  rw [IntegerType.least] at least
  rw [IntegerType.greatest] at greatest
  rw [ofBits]
  by_cases signed : type.signed
  · rw [if_pos signed] at least greatest ⊢
    exact BitVec.toInt_ofInt_eq_self room least (by omega)
  · rw [if_neg signed] at least greatest ⊢
    rw [BitVec.toNat_ofInt, Int.natCast_pow, Int.cast_ofNat_Int, Int.emod_eq_of_lt least (by omega)]
    exact Int.toNat_of_nonneg least

theorem IntegerType.bits_le (type : IntegerType) : type.bits ≤ 128 := by
  rw [bits]
  cases type.width <;> decide

namespace IntegerParts

theorem toNat_mask {width : Nat} (narrow : width ≤ 128) : (mask width).toNat = 2 ^ width - 1 := by
  rw [mask]
  split
  next full => rw [Nat.le_antisymm narrow full, BitVec.toNat_allOnes]
  next =>
    have room : 2 ^ width < 2 ^ 128 := Nat.pow_lt_pow_right (by decide) (by omega)
    have one : 1 ≤ 2 ^ width := Nat.one_le_two_pow
    rw [BitVec.toNat_sub, BitVec.toNat_shiftLeft, BitVec.toNat_ofNat, Nat.shiftLeft_eq]
    omega

/-- The mask leaves the residue of a number that its type has room for. -/
theorem toNat_bits_ofSigned (value : Int) {width : Nat} (narrow : width ≤ 128) :
    (ofSigned value width).bits.toNat = (value % (2 ^ width : Nat)).toNat := by
  have divides : ((2 ^ width : Nat) : Int) ∣ (2 ^ 128 : Nat) :=
    Int.natCast_dvd_natCast.mpr (Nat.pow_dvd_pow 2 narrow)
  have word : 0 ≤ value % (2 ^ 128 : Nat) := Int.emod_nonneg _ (by decide)
  have residue : (((value % (2 ^ 128 : Nat)).toNat % 2 ^ width : Nat) : Int) =
      value % (2 ^ width : Nat) := by
    rw [Int.natCast_emod, Int.toNat_of_nonneg word, Int.emod_emod_of_dvd _ divides]
  rw [ofSigned, BitVec.toNat_and, toNat_mask narrow, Nat.and_two_pow_sub_one_eq_mod,
    BitVec.toNat_ofInt, ← residue, Int.toNat_natCast]

end IntegerParts

namespace Integer

theorem parts_of_signed {integer : Integer} (signed : integer.type.signed = true) :
    integer.parts = .ofSigned integer.value integer.type.bits := by
  obtain ⟨⟨_, width⟩, value, held⟩ := integer
  cases signed
  cases width <;> rfl

theorem parts_of_unsigned {integer : Integer} (unsigned : integer.type.signed = false) :
    integer.parts = .ofUnsigned integer.value := by
  obtain ⟨⟨_, width⟩, value, held⟩ := integer
  cases unsigned
  cases width <;> rfl

theorem natAbs_lt (integer : Integer) : integer.value.natAbs < 2 ^ (128 : Nat) := by
  have room {exponent bound : Nat} (fits : exponent ≤ bound) :
      (2 ^ exponent : Int) ≤ 2 ^ bound := by
    exact_mod_cast Nat.pow_le_pow_right (by decide) fits
  have full := room integer.type.bits_le
  have half : (2 ^ (integer.type.bits - 1) : Int) ≤ 2 ^ 127 :=
    room (Nat.sub_le_sub_right integer.type.bits_le 1)
  obtain ⟨least, greatest⟩ := integer.held
  rw [IntegerType.least] at least
  rw [IntegerType.greatest] at greatest
  split at least <;> split at greatest <;> omega

theorem nonneg_of_unsigned {integer : Integer} (unsigned : integer.type.signed = false) :
    0 ≤ integer.value := by
  simpa [IntegerType.least, unsigned] using integer.held.1

theorem magnitude_eq (integer : Integer) : integer.magnitude = integer.value.natAbs := by
  have small := integer.natAbs_lt
  cases signed : integer.type.signed with
  | true =>
    rw [magnitude, parts_of_signed signed]
    exact Nat.mod_eq_of_lt small
  | false =>
    have nonneg := nonneg_of_unsigned signed
    rw [magnitude, parts_of_unsigned signed, IntegerParts.ofUnsigned, BitVec.toNat_ofInt]
    omega

theorem sign_eq (integer : Integer) : integer.sign = if integer.value < 0 then ['-'] else [] := by
  cases signed : integer.type.signed with
  | true => simp [sign, parts_of_signed signed, IntegerParts.ofSigned]
  | false =>
    simp [sign, parts_of_unsigned signed, IntegerParts.ofUnsigned, nonneg_of_unsigned signed]

/-- The pattern of an integer is the bits that stand for it. -/
theorem pattern_eq (integer : Integer) :
    integer.pattern = (BitVec.ofInt integer.type.bits integer.value).toNat := by
  rw [BitVec.toNat_ofInt]
  cases signed : integer.type.signed with
  | true =>
    rw [pattern, parts_of_signed signed,
      IntegerParts.toNat_bits_ofSigned _ integer.type.bits_le]
  | false =>
    have nonneg := nonneg_of_unsigned signed
    have greatest := integer.held.2
    rw [IntegerType.greatest, signed, if_neg (by decide)] at greatest
    have below : integer.value < (2 ^ integer.type.bits : Nat) := by
      rw [Int.natCast_pow, Int.cast_ofNat_Int]
      omega
    have small := integer.natAbs_lt
    rw [pattern, parts_of_unsigned signed, IntegerParts.ofUnsigned, BitVec.toNat_ofInt,
      Int.emod_eq_of_lt nonneg (by omega), Int.emod_eq_of_lt nonneg below]

end Integer

end LogTree
