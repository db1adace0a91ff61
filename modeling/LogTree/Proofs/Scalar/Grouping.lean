import LogTree.Proofs.Number.FixedPoint
import LogTree.Proofs.Scalar.NumericFormats

/-!
# Fixed point with and without groups

Integers and finite floating point numbers are written in fixed point by two formats. Both show the
same sign, the same digits and the same decimals, and one of them separates the integral digits into
groups.
-/

namespace LogTree

namespace Scalar

open NumericFormat

/-- A scalar is an integer or a finite floating point number. -/
inductive IsFiniteNumber (scalar : Scalar) : Prop where
  /-- Every integer is finite. -/
  | integer {integer : Integer} (held : scalar.integer? = some integer)
  /-- Floating point numbers may be infinite, or none at all. -/
  | float {datum : FloatDatum} (held : scalar.float? = some datum) (finite : datum.isFinite)

/-- The digits of a finite number with a number of decimals. -/
def fixedDigits? (places : Nat) : Scalar → Option (FixedDigits places)
  | atom (.integer integer) => some (integer.fixedDigits places)
  | atom (.single bits) => (singleDatum bits).fixedDigits? places
  | atom (.double bits) => (doubleDatum bits).fixedDigits? places
  | _ => none

theorem fixedDigits?_of_integer? {scalar : Scalar} {integer : Integer}
    (held : scalar.integer? = some integer) (places : Nat) :
    scalar.fixedDigits? places = some (integer.fixedDigits places) := by
  fun_cases integer? scalar with
  | case1 value => rw [← Option.some.inj held, fixedDigits?]
  | case2 => simp_all [integer?]

theorem fixedDigits?_of_float? {scalar : Scalar} {datum : FloatDatum}
    (held : scalar.float? = some datum) (places : Nat) :
    scalar.fixedDigits? places = datum.fixedDigits? places := by
  fun_cases float? scalar with
  | case1 bits => rw [← Option.some.inj held, fixedDigits?]
  | case2 bits => rw [← Option.some.inj held, fixedDigits?]
  | case3 => simp_all [float?]

theorem exists_fixedDigits {scalar : Scalar} (number : scalar.IsFiniteNumber) (places : Nat) :
    ∃ digits, scalar.fixedDigits? places = some digits := by
  cases number with
  | integer held => exact ⟨_, fixedDigits?_of_integer? held places⟩
  | @float datum held finite =>
    rw [fixedDigits?_of_float? held]
    cases datum with
    | finite negative magnitude => exact ⟨_, rfl⟩
    | _ => cases finite

theorem render_fixed {scalar : Scalar} (number : scalar.IsFiniteNumber) {text : String}
    {grouped : Bool} {precision : Option Nat}
    (understood : Understood integerLetters text ⟨.fixed grouped, precision⟩)
    {digits : FixedDigits (precision.getD 2)}
    (shown : scalar.fixedDigits? (precision.getD 2) = some digits) (provider : Option Separators) :
    scalar.render (some text) provider =
      String.ofList (digits.text (separatorsOf provider) grouped) := by
  cases number with
  | @integer integer held =>
    rw [fixedDigits?_of_integer? held] at shown
    rw [render_integer held understood, integer.formatted_fixed, Option.some.inj shown]
  | @float datum held finite =>
    rw [fixedDigits?_of_float? held] at shown
    exact render_float held understood (by rw [datum.formatted?_fixed, shown, Option.map_some])

/-- In both fixed point formats a finite number has the same sign, the same integral digits and the
same rest, which is empty or the decimal separator and the fractional digits. One format shows the
integral digits as they are. The other one puts the group separator before each of them, apart from
the first one, from which on a multiple of three digits remains: one to three digits stand in the
first group, and three in each other group. -/
theorem render_grouped {scalar : Scalar} (number : scalar.IsFiniteNumber) {plain grouped : String}
    {precision : Option Nat}
    (documented : Documented integerLetters plain ⟨.fixed false, precision⟩)
    (documentedGrouped : Documented integerLetters grouped ⟨.fixed true, precision⟩)
    (provider : Option Separators) :
    ∃ (digits : FixedDigits (precision.getD 2)) (sign rest first : List Char)
      (groups : List (List Char)),
      scalar.fixedDigits? (precision.getD 2) = some digits ∧
      sign = (if digits.negative then ['-'] else []) ∧
      rest = (if digits.fraction = [] then []
        else (separatorsOf provider).decimal :: digits.fraction) ∧
      scalar.render (some plain) provider = String.ofList (sign ++ digits.integral ++ rest) ∧
      scalar.render (some grouped) provider =
        String.ofList (sign ++ [(separatorsOf provider).group].intercalate (first :: groups) ++
          rest) ∧
      [(separatorsOf provider).group].intercalate (first :: groups) =
        digits.integral.zipIdx.flatMap
          (Digits.marked (separatorsOf provider).group digits.integral.length) ∧
      digits.integral = (first :: groups).flatten ∧ Digits.InThrees first groups := by
  obtain ⟨digits, shown⟩ := exists_fixedDigits number (precision.getD 2)
  obtain ⟨first, groups, threes, flat, joined⟩ := Digits.exists_groups digits.integral_ne_nil
  refine ⟨digits, _, _, first, groups, shown, rfl, rfl, ?_, ?_, ?_, flat, threes⟩
  · rw [render_fixed number (Or.inl documented) shown, List.append_assoc]
    rfl
  · rw [render_fixed number (Or.inl documentedGrouped) shown, ← joined, List.append_assoc]
    rfl
  · rw [← joined, Digits.grouped_eq_flatMap]

/-- Six integral digits are two full groups, and no separator stands before the first of them. -/
theorem render_grouped_full :
    (atom (.double 0xc0fe240800000000)).IsFiniteNumber ∧
    Documented integerLetters "f1" ⟨.fixed false, some 1⟩ ∧
    Documented integerLetters "N01" ⟨.fixed true, some 1⟩ ∧
    ∃ (digits : FixedDigits 1) (sign rest first : List Char) (groups : List (List Char)),
      (atom (.double 0xc0fe240800000000)).fixedDigits? 1 = some digits ∧
      sign = (if digits.negative then ['-'] else []) ∧
      rest = (if digits.fraction = [] then [] else ',' :: digits.fraction) ∧
      "-123456,5" = String.ofList (sign ++ digits.integral ++ rest) ∧
      "-123.456,5" = String.ofList (sign ++ ['.'].intercalate (first :: groups) ++ rest) ∧
      digits.integral = (first :: groups).flatten ∧ Digits.InThrees first groups := by
  have number : (atom (.double 0xc0fe240800000000)).IsFiniteNumber := .float rfl rfl
  have plain : Documented integerLetters "f1" ⟨.fixed false, some 1⟩ :=
    ⟨'f', by decide, ['1'], rfl, rfl, .number (by simp) (by simp) (by decide)⟩
  have grouped : Documented integerLetters "N01" ⟨.fixed true, some 1⟩ :=
    ⟨'N', by decide, ['0', '1'], rfl, rfl, .number (by simp) (by simp) (by decide)⟩
  have shown : (atom (.double 0xc0fe240800000000)).render (some "f1") (some ⟨',', '.'⟩) =
      "-123456,5" := by decide
  have shownGrouped : (atom (.double 0xc0fe240800000000)).render (some "N01") (some ⟨',', '.'⟩) =
      "-123.456,5" := by decide
  obtain ⟨digits, sign, rest, first, groups, same, signed, decimals, text, textGrouped, -, parts⟩ :=
    render_grouped number plain grouped (some ⟨',', '.'⟩)
  exact ⟨number, plain, grouped, digits, sign, rest, first, groups, same, signed, decimals,
    shown.symm.trans text, shownGrouped.symm.trans textGrouped, parts⟩

end Scalar

end LogTree
