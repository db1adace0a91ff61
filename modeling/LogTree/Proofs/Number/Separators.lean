import LogTree.Proofs.Number.FixedPoint
import LogTree.Proofs.Number.Numerals

/-!
# Separators in numbers

Between its separators a number consists of signs, digits and letters, and no point and no comma is
among them. So a number with some separators is the number with the invariant ones in which each
point and each comma is replaced, both at once.
-/

namespace LogTree

namespace Separators

/-- What stands in place of a character once points and commas, the invariant separators, are
replaced. -/
def replaced (separators : Separators) (character : Char) : Char :=
  if character = '.' then separators.decimal
  else if character = ',' then separators.group
  else character

/-- The text with the invariant separators replaced. -/
def replacedIn (separators : Separators) (text : String) : String :=
  String.ofList (text.toList.map separators.replaced)

theorem replacedIn_ofList (separators : Separators) (characters : List Char) :
    separators.replacedIn (String.ofList characters) =
      String.ofList (characters.map separators.replaced) := by
  rw [replacedIn, String.toList_ofList]

end Separators

/-- None of the invariant separators is in the text. -/
def Bare (text : List Char) : Prop :=
  '.' ∉ text ∧ ',' ∉ text

instance (text : List Char) : Decidable (Bare text) :=
  inferInstanceAs (Decidable (_ ∧ _))

theorem bare_append {left right : List Char} : Bare (left ++ right) ↔ Bare left ∧ Bare right := by
  simp only [Bare, List.mem_append, not_or, and_and_and_comm]

theorem bare_of_isDigit {digits : List Char} (decimal : ∀ digit ∈ digits, digit.isDigit) :
    Bare digits :=
  ⟨fun point => absurd (decimal '.' point) (by decide),
    fun comma => absurd (decimal ',' comma) (by decide)⟩

theorem bare_replicate_zero (count : Nat) : Bare (List.replicate count '0') :=
  bare_of_isDigit fun digit among => by
    rw [List.eq_of_mem_replicate among]
    rfl

theorem bare_signText (negative : Bool) : Bare (FloatDatum.signText negative) := by
  cases negative <;> decide

theorem Integer.bare_sign (integer : Integer) : Bare integer.sign := by
  rw [sign]
  split <;> decide

theorem bare_exponentText (upper : Bool) (power : Int) :
    Bare (exponentText (if upper then 'E' else 'e') false power) := by
  have mark : Bare [if upper then 'E' else 'e'] := by cases upper <;> decide
  have sign : Bare (if power < 0 then ['-'] else if false then ['+'] else []) := by
    split <;> decide
  have digits : Bare (Digits.decimal power.natAbs) :=
    bare_of_isDigit fun _ => Digits.isDigit_of_mem_decimal
  exact bare_append.mpr ⟨bare_append.mpr ⟨mark, sign⟩, digits⟩

/-- What is read as a hexadecimal number has nothing but digits. -/
theorem Hex.isSome_digitValue?_of_absorb? {digits : List Char} {value number : Nat}
    (read : absorb? value digits = some number) :
    ∀ digit ∈ digits, (digitValue? digit).isSome := by
  induction digits generalizing value with
  | nil => simp
  | cons digit digits induction =>
    rw [absorb?, List.foldlM_cons] at read
    obtain ⟨next, here, later⟩ := Option.bind_eq_some_iff.mp read
    obtain ⟨amount, found, -⟩ := Option.bind_eq_some_iff.mp here
    exact List.forall_mem_cons.mpr ⟨Option.isSome_of_eq_some found, induction later⟩

theorem Digits.bare_hex (upper : Bool) (value : Nat) : Bare (hex upper value) := by
  have known := Hex.isSome_digitValue?_of_absorb? (Hex.absorb?_hex upper value)
  exact ⟨fun point => absurd (known '.' point) (by decide),
    fun comma => absurd (known ',' comma) (by decide)⟩

theorem Ratio.bare_significant (ratio : Ratio) (further : Nat) :
    Bare (ratio.significant further).1 := by
  rw [significant]
  split
  next zero => exact bare_replicate_zero (further + 1)
  next positive =>
    dsimp only
    split <;> exact bare_of_isDigit fun _ => Digits.isDigit_of_mem_decimal

/-- A text depends on the separators only in that they stand where the invariant ones do. -/
def OnlyReplaces (write : Separators → List Char) : Prop :=
  ∀ separators, write separators = (write .invariant).map separators.replaced

namespace OnlyReplaces

theorem of_bare {text : List Char} (bare : Bare text) : OnlyReplaces fun _ => text := by
  intro separators
  have kept : ∀ character ∈ text, separators.replaced character = character := by
    intro character among
    have apart : character ≠ '.' ∧ character ≠ ',' :=
      ⟨fun point => bare.1 (point ▸ among), fun comma => bare.2 (comma ▸ among)⟩
    rw [Separators.replaced, if_neg apart.1, if_neg apart.2]
  rw [List.map_congr_left kept, List.map_id']

theorem append {left right : Separators → List Char} (first : OnlyReplaces left)
    (second : OnlyReplaces right) :
    OnlyReplaces fun separators => left separators ++ right separators := by
  intro separators
  rw [List.map_append, ← first separators, ← second separators]

theorem decimal : OnlyReplaces fun separators => [separators.decimal] :=
  fun _ => rfl

theorem grouped {digits : List Char} (bare : Bare digits) :
    OnlyReplaces fun separators => Digits.grouped separators.group digits := by
  intro separators
  rw [Digits.grouped_map, ← of_bare bare separators]
  rfl

theorem fixedText {integral fraction : List Char} (grouped : Bool) (bare : Bare integral)
    (bareFraction : Bare fraction) :
    OnlyReplaces fun separators => LogTree.fixedText separators grouped integral fraction := by
  refine .append ?_ ?_
  · cases grouped with
    | true => exact .grouped bare
    | false => exact .of_bare bare
  · by_cases none : fraction = []
    · simpa only [if_pos none] using of_bare (by decide : Bare [])
    · simp only [if_neg none]
      exact append .decimal (.of_bare bareFraction)

theorem significandText {digits : List Char} (bare : Bare digits) :
    OnlyReplaces fun separators => LogTree.significandText separators.decimal digits := by
  cases digits with
  | nil => exact .of_bare bare
  | cons leading further =>
    cases further with
    | nil => exact .of_bare bare
    | cons next further =>
      obtain ⟨first, others⟩ := bare_append.mp (show Bare ([leading] ++ next :: further) from bare)
      exact .append (.of_bare first) (.append .decimal (.of_bare others))

theorem exponentialText (upper : Bool) (places : Nat) (number : Ratio) :
    OnlyReplaces fun separators => LogTree.exponentialText separators upper places number :=
  .append (.significandText (number.bare_significant places)) (.of_bare (bare_exponentText _ _))

end OnlyReplaces

theorem FixedDigits.onlyReplaces_text {places : Nat} (digits : FixedDigits places)
    (grouped : Bool) : OnlyReplaces fun separators => digits.text separators grouped :=
  .append (.of_bare (bare_signText digits.negative))
    (.fixedText grouped (bare_of_isDigit digits.isDigit_integral)
      (bare_of_isDigit digits.isDigit_fraction))

theorem Integer.onlyReplaces_formatted (integer : Integer) (format : NumericFormat) :
    OnlyReplaces fun separators => integer.formatted separators format := by
  obtain ⟨style, precision⟩ := format
  cases style with
  | digits =>
    exact .of_bare (bare_append.mpr ⟨integer.bare_sign,
      bare_of_isDigit fun _ => Digits.isDigit_of_mem_zeroPadded⟩)
  | hex upper =>
    have bare := bare_append.mpr
      ⟨bare_replicate_zero (precision.getD 0 - (Digits.hex upper integer.pattern).length),
        Digits.bare_hex upper integer.pattern⟩
    cases upper <;> exact .of_bare bare
  | fixed grouped =>
    simp only [Integer.formatted_fixed]
    exact (integer.fixedDigits _).onlyReplaces_text grouped
  | exponential upper => exact .append (.of_bare integer.bare_sign) (.exponentialText upper _ _)

theorem FloatDatum.formatted?_replaced (datum : FloatDatum) (format : NumericFormat)
    (separators : Separators) :
    datum.formatted? separators format =
      (datum.formatted? .invariant format).map (·.map separators.replaced) := by
  obtain ⟨style, precision⟩ := format
  cases style with
  | fixed grouped =>
    rw [datum.formatted?_fixed, datum.formatted?_fixed, Option.map_map]
    refine congrArg (Option.map · _) (funext fun digits => ?_)
    exact digits.onlyReplaces_text grouped separators
  | exponential upper =>
    cases datum with
    | finite negative magnitude =>
      exact congrArg some ((OnlyReplaces.of_bare (bare_signText negative)).append
        (.exponentialText upper _ magnitude.ratio) separators)
    | _ => rfl
  | _ => cases datum <;> rfl

theorem Integer.onlyReplaces_text (integer : Integer) :
    OnlyReplaces fun _ => integer.text.toList := by
  have bare : Bare (Digits.signed integer.value) := bare_append.mpr
    ⟨integer.sign_eq ▸ integer.bare_sign, bare_of_isDigit fun _ => Digits.isDigit_of_mem_decimal⟩
  rw [Integer.text, String.toList_ofList]
  exact .of_bare bare

theorem Decimal.comma_not_mem_positional (keepsPoint : Bool) (decimal : Decimal) :
    ',' ∉ decimal.positional keepsPoint := by
  have digits : Bare decimal.digits := bare_of_isDigit fun _ => Digits.isDigit_of_mem_decimal
  rw [positional]
  dsimp only
  split
  · have point : ',' ∉ (if keepsPoint then ['.', '0'] else []) := by cases keepsPoint <;> decide
    simp only [List.mem_append, not_or]
    exact ⟨⟨digits.2, (bare_replicate_zero _).2⟩, point⟩
  · have written : ',' ∉ Digits.padded ((-decimal.exponent).toNat + 1) '0' decimal.digits :=
      (bare_append.mpr ⟨bare_replicate_zero _, digits⟩).2
    intro among
    rcases List.mem_append.mp among with integral | fraction
    · exact written (List.mem_of_mem_take integral)
    · rcases List.mem_cons.mp fraction with comma | further
      · exact absurd comma (by decide)
      · exact written (List.mem_of_mem_drop further)

theorem FloatDatum.comma_not_mem_text (datum : FloatDatum) (format : BinaryFormat) :
    ',' ∉ (datum.text format .plain).toList := by
  cases datum with
  | notANumber =>
    rw [text]
    decide
  | infinite negative =>
    rw [text, String.toList_ofList]
    cases negative <;> decide
  | finite negative magnitude =>
    have positional : (format.shortest .up magnitude).styled .plain =
        (format.shortest .up magnitude).positional false :=
      if_pos (Or.inr rfl)
    rw [text, String.toList_ofList, List.mem_append]
    rintro (sign | digits)
    · exact (bare_signText negative).2 sign
    · exact Decimal.comma_not_mem_positional false _ (positional ▸ digits)

end LogTree
