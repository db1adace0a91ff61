import LogTree.Number.Format
import LogTree.Proofs.Number.Numerals

/-!
# Fixed point

A number with a fixed number of decimals is a sign, integral digits and fractional digits. Grouping
puts a separator between the integral digits wherever a multiple of three of them remains, so that
every group but the first one has three digits.
-/

namespace LogTree

attribute [local instance (high)] instPowNat

namespace Digits

theorem grouped_cons (separator digit : Char) (digits : List Char) :
    grouped separator (digit :: digits) =
      digit :: ((if digits ≠ [] ∧ digits.length % 3 = 0 then [separator] else []) ++
        grouped separator digits) := by
  rw [grouped]
  split <;> rfl

theorem grouped_map (change : Char → Char) (separator : Char) (digits : List Char) :
    (grouped separator digits).map change = grouped (change separator) (digits.map change) := by
  induction digits with
  | nil => rfl
  | cons digit digits induction =>
    rw [grouped_cons, List.map_cons, List.map_append, induction, List.map_cons, grouped_cons]
    simp [apply_ite (List.map change)]

/-- Groups of digits: one to three in the first one and three in each other one. -/
structure InThrees (first : List Char) (groups : List (List Char)) : Prop where
  /-- The first group is not empty. -/
  first_pos : 1 ≤ first.length
  /-- The first group has no more digits than the others. -/
  first_le : first.length ≤ 3
  /-- The other groups are full. -/
  full : ∀ group ∈ groups, group.length = 3

theorem InThrees.length_flatten_mod {first : List Char} {groups : List (List Char)}
    (threes : InThrees first groups) :
    (first :: groups).flatten.length % 3 = first.length % 3 := by
  have rest : groups.flatten.length = 3 * groups.length := by
    induction groups with
    | nil => rfl
    | cons group groups induction =>
      obtain ⟨here, later⟩ := List.forall_mem_cons.mp threes.full
      have further := induction ⟨threes.first_pos, threes.first_le, later⟩
      rw [List.flatten_cons, List.length_append, List.length_cons, here, further]
      omega
  rw [List.flatten_cons, List.length_append, rest]
  omega

/-- Grouped digits are groups with one separator between each two. -/
theorem exists_groups {digits : List Char} (written : digits ≠ []) :
    ∃ first groups, InThrees first groups ∧ digits = (first :: groups).flatten ∧
      ∀ separator, grouped separator digits = [separator].intercalate (first :: groups) := by
  induction digits with
  | nil => exact absurd rfl written
  | cons digit digits induction =>
    by_cases further : digits = []
    · subst further
      exact ⟨[digit], [], ⟨by simp, by simp, by simp⟩, by simp, fun separator => by
        simp [grouped, List.intercalate]⟩
    · obtain ⟨first, groups, threes, flat, shown⟩ := induction further
      have remaining := threes.length_flatten_mod
      rw [← flat] at remaining
      obtain ⟨first_pos, first_le, full⟩ := threes
      by_cases multiple : digits.length % 3 = 0
      · have third : first.length = 3 := by omega
        refine ⟨[digit], first :: groups, ⟨by simp, by simp, ?_⟩, by simp [flat],
          fun separator => ?_⟩
        · exact List.forall_mem_cons.mpr ⟨third, full⟩
        · rw [grouped_cons, if_pos ⟨further, multiple⟩, shown]
          simp [List.intercalate]
      · refine ⟨digit :: first, groups, ⟨by simp, ?_, full⟩, by simp [flat], fun separator => ?_⟩
        · rw [List.length_cons]
          omega
        · rw [grouped_cons, if_neg fun both => multiple both.2, shown]
          cases groups <;> simp [List.intercalate]

/-- The digit at a position among a number of digits, behind a separator if a digit stands before it
and a multiple of three digits remains. -/
def marked (separator : Char) (total : Nat) (digit : Char × Nat) : List Char :=
  if digit.2 ≠ 0 ∧ (total - digit.2) % 3 = 0 then [separator, digit.1] else [digit.1]

theorem flatMap_marked (separator : Char) (digits : List Char) (start : Nat) :
    (digits.zipIdx (start + 1)).flatMap (marked separator (start + 1 + digits.length)) =
      (if digits ≠ [] ∧ digits.length % 3 = 0 then [separator] else []) ++
        grouped separator digits := by
  induction digits generalizing start with
  | nil => rfl
  | cons digit digits induction =>
    have total : start + 1 + 1 + digits.length = start + 1 + (digits.length + 1) := by omega
    have remaining : start + 1 + (digits.length + 1) - (start + 1) = digits.length + 1 := by omega
    have later := induction (start + 1)
    rw [total] at later
    rw [List.zipIdx_cons, List.flatMap_cons, List.length_cons, later, grouped_cons, marked,
      remaining]
    by_cases multiple : (digits.length + 1) % 3 = 0 <;> simp [multiple]

/-- A separator stands before each digit, apart from the first one, from which on a multiple of
three digits remains, and nowhere else. -/
theorem grouped_eq_flatMap (separator : Char) (digits : List Char) :
    grouped separator digits = digits.zipIdx.flatMap (marked separator digits.length) := by
  cases digits with
  | nil => rfl
  | cons digit digits =>
    have later := flatMap_marked separator digits 0
    rw [List.zipIdx_cons, List.flatMap_cons, List.length_cons, grouped_cons, ← later, marked]
    simp [Nat.add_comm]

end Digits

/-- The digits of a number with a fixed number of decimals. -/
@[ext]
structure FixedDigits (places : Nat) where
  /-- Whether a minus sign stands before the digits. -/
  negative : Bool
  /-- Digits before the decimal separator. -/
  integral : List Char
  /-- Digits behind the decimal separator. -/
  fraction : List Char
  /-- There is an integral digit. -/
  integral_ne_nil : integral ≠ []
  /-- The integral digits are decimal ones. -/
  isDigit_integral : ∀ digit ∈ integral, digit.isDigit
  /-- The fractional digits are decimal ones. -/
  isDigit_fraction : ∀ digit ∈ fraction, digit.isDigit
  /-- There are as many fractional digits as were asked for. -/
  length_fraction : fraction.length = places

namespace FixedDigits

variable {places : Nat}

/-- The sign and the digits with their separators. -/
def text (separators : Separators) (grouped : Bool) (digits : FixedDigits places) : List Char :=
  FloatDatum.signText digits.negative ++
    fixedText separators grouped digits.integral digits.fraction

end FixedDigits

/-- The digits of an integer, all of its decimals being zeros. -/
def Integer.fixedDigits (integer : Integer) (places : Nat) : FixedDigits places where
  negative := integer.value < 0
  integral := Digits.decimal integer.magnitude
  fraction := List.replicate places '0'
  integral_ne_nil := Nat.toDigits_ne_nil
  isDigit_integral _ := Digits.isDigit_of_mem_decimal
  isDigit_fraction digit among := by
    rw [List.eq_of_mem_replicate among]
    rfl
  length_fraction := List.length_replicate

theorem Integer.formatted_fixed (integer : Integer) (separators : Separators) (grouped : Bool)
    (precision : Option Nat) :
    integer.formatted separators ⟨.fixed grouped, precision⟩ =
      (integer.fixedDigits (precision.getD 2)).text separators grouped := by
  simp [Integer.formatted, FixedDigits.text, Integer.fixedDigits, Integer.sign_eq,
    FloatDatum.signText, NumericFormat.fixedPlaces]

theorem Ratio.isDigit_fixed {ratio : Ratio} {places : Nat} {digit : Char}
    (among : digit ∈ (ratio.fixed places).2) : digit.isDigit := by
  rw [fixed] at among
  split at among
  · simp at among
  · exact Digits.isDigit_of_mem_zeroPadded among

theorem Ratio.length_fixed (ratio : Ratio) (places : Nat) :
    (ratio.fixed places).2.length = places := by
  rw [fixed]
  split
  next none => exact none.symm
  next some =>
    have small : (ratio.scaled places).rounded % 10 ^ places < 10 ^ places :=
      Nat.mod_lt _ (Nat.pow_pos (by decide))
    have short := (Nat.length_toDigits_le_iff (by decide) (Nat.pos_of_ne_zero some)).mpr small
    rw [Digits.zeroPadded, Digits.length_padded, Digits.decimal, Nat.max_eq_left short]

/-- The digits of a finite number that is rounded to a number of places. -/
def FloatDatum.fixedDigits? (places : Nat) : FloatDatum → Option (FixedDigits places)
  | .finite negative magnitude =>
    some {
      negative := negative && magnitude.mantissa ≠ 0
      integral := (magnitude.ratio.fixed places).1
      fraction := (magnitude.ratio.fixed places).2
      integral_ne_nil := Nat.toDigits_ne_nil
      isDigit_integral := fun _ => Digits.isDigit_of_mem_decimal
      isDigit_fraction := fun _ => Ratio.isDigit_fixed
      length_fraction := Ratio.length_fixed magnitude.ratio places }
  | _ => none

theorem FloatDatum.formatted?_fixed (datum : FloatDatum) (separators : Separators) (grouped : Bool)
    (precision : Option Nat) :
    datum.formatted? separators ⟨.fixed grouped, precision⟩ =
      (datum.fixedDigits? (precision.getD 2)).map (·.text separators grouped) := by
  cases datum <;> rfl

end LogTree
