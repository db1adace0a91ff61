import LogTree.Proofs.Number.Numerals
import LogTree.Proofs.Scalar.NumericFormats

/-!
# Numbers of constants

A named constant has a number of 64 bits. In decimal digits it is shown as that number is. In
hexadecimal digits there is room for the low half of the number alone, so constants whose numbers
have the same low half look alike, and a constant looks like its number exactly if the high half has
nothing to show.
-/

namespace LogTree

attribute [local instance (high)] instPowNat

/-- The number of a constant as an integer of 64 bits. -/
def EnumConstant.number (constant : EnumConstant) : Integer where
  type := .int .bits64
  value := constant.value.toInt
  held := ⟨constant.value.le_toInt, Int.le_sub_one_of_lt constant.value.toInt_lt⟩

/-- Hexadecimal digits behind zeros tell numbers apart. -/
theorem Digits.padded_hex_inj {upper : Bool} {width left right : Nat} :
    padded width '0' (hex upper left) = padded width '0' (hex upper right) ↔ left = right := by
  constructor
  · intro same
    have read := congrArg Hex.number? same
    rw [Hex.number?_padded_hex, Hex.number?_padded_hex] at read
    exact Option.some.inj read
  · rintro rfl
    rfl

namespace Scalar

open NumericFormat

/-- The low half of a constant's number, as a number without a sign. -/
def lowHalf (value : EnumConstant) : Nat :=
  (value.value.toInt % 2 ^ (32 : Nat)).toNat

theorem render_constant_hex (value : EnumConstant) (provider : Option Separators) :
    (constant value).render (some "X") provider =
      String.ofList (Digits.padded 8 '0' (Digits.hex true (lowHalf value))) :=
  rfl

theorem length_padded_hex_lowHalf (value : EnumConstant) :
    (Digits.padded 8 '0' (Digits.hex true (lowHalf value))).length = 8 := by
  have small : lowHalf value < 16 ^ (8 : Nat) := by
    rw [lowHalf]
    omega
  have short : (Nat.toDigits 16 (lowHalf value)).length ≤ 8 :=
    (Nat.length_toDigits_le_iff (by decide) (by decide)).mpr small
  rw [Digits.length_padded, Digits.hex, if_pos rfl, Digits.upperHex, List.length_map]
  exact Nat.max_eq_left short

theorem render_decimal (integer : Integer) (provider : Option Separators) :
    (atom (.integer integer)).render (some "D") provider = integer.text := by
  have documented : Documented integerLetters "D" ⟨.digits, none⟩ :=
    ⟨'D', by decide, [], rfl, rfl, .nothing⟩
  have unpadded : Digits.zeroPadded 0 integer.magnitude = Digits.decimal integer.magnitude :=
    Digits.padded_of_le (Nat.zero_le _)
  rw [render_integer rfl (Or.inl documented) provider, Integer.text, Digits.signed,
    ← integer.magnitude_eq, ← integer.sign_eq]
  exact congrArg (fun digits => String.ofList (integer.sign ++ digits)) unpadded

theorem render_eight_hex (integer : Integer) (provider : Option Separators) :
    (atom (.integer integer)).render (some "X8") provider =
      String.ofList (Digits.padded 8 '0' (Digits.hex true integer.pattern)) := by
  have documented : Documented integerLetters "X8" ⟨.hex true, some 8⟩ :=
    ⟨'X', by decide, ['8'], rfl, rfl, .number (by simp) (by simp) (by decide)⟩
  exact render_integer rfl (Or.inl documented) provider

/-- In decimal digits a constant is shown as its number is. In hexadecimal digits it is shown by
eight digits, which stand for the low half of its number: it looks like its number with at least
eight digits exactly if the number is not negative and has no more than 32 bits, and it looks like
the constants whose numbers have the same low half. -/
theorem render_constant_number (value : EnumConstant) (provider : Option Separators) :
    (constant value).render (some "D") provider =
      (atom (.integer value.number)).render (some "D") provider ∧
    (∃ digits, (constant value).render (some "X") provider = String.ofList digits ∧
      digits.length = 8 ∧
      Hex.number? digits = some (value.value.toInt % 2 ^ (32 : Nat)).toNat) ∧
    ((constant value).render (some "X") provider =
        (atom (.integer value.number)).render (some "X8") provider ↔
      0 ≤ value.value.toInt ∧ value.value.toInt < 2 ^ (32 : Nat)) ∧
    ∀ other : EnumConstant,
      (constant value).render (some "X") provider = (constant other).render (some "X") provider ↔
        value.value.toInt % 2 ^ (32 : Nat) = other.value.toInt % 2 ^ (32 : Nat) := by
  refine ⟨?_, ⟨_, render_constant_hex value provider, length_padded_hex_lowHalf value,
    Hex.number?_padded_hex true 8 (lowHalf value)⟩, ?_, fun other => ?_⟩
  · rw [render_decimal]
    rfl
  · have pattern : value.number.pattern = (value.value.toInt % 2 ^ (64 : Nat)).toNat := by
      rw [Integer.pattern_eq, BitVec.toNat_ofInt]
      rfl
    have least := value.value.le_toInt
    have greatest := value.value.toInt_lt
    rw [render_constant_hex, render_eight_hex, String.ofList_inj, Digits.padded_hex_inj, pattern,
      lowHalf]
    omega
  · rw [render_constant_hex, render_constant_hex, String.ofList_inj, Digits.padded_hex_inj, lowHalf,
      lowHalf]
    omega

/-- A constant with a number of more than 32 bits is shown without its high half, and so like a
constant with another number. -/
theorem not_forall_render_constant_number :
    (¬ ∀ (value : EnumConstant) (provider : Option Separators), 0 ≤ value.value.toInt →
      (constant value).render (some "X") provider =
        (atom (.integer value.number)).render (some "X8") provider) ∧
    ¬ ∀ (value other : EnumConstant) (provider : Option Separators),
      0 ≤ value.value.toInt → 0 ≤ other.value.toInt → value.value ≠ other.value →
        (constant value).render (some "X") provider ≠
          (constant other).render (some "X") provider := by
  constructor
  · intro shown
    have same := shown ⟨"Color", "Blue", 4294967301⟩ none (by decide)
    exact absurd same (by decide)
  · intro apart
    have different := apart ⟨"Color", "Blue", 4294967301⟩ ⟨"Color", "Cyan", 5⟩ none (by decide)
      (by decide) (by decide)
    exact different (by decide)

end Scalar

end LogTree
