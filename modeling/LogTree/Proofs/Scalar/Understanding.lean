import LogTree.Proofs.Scalar.NumericFormats

/-!
# Formats that a scalar understands

Each kind of scalar has formats of its own: numbers the numeric ones, dates and times the patterns
that can be filled with their parts, texts and named constants a few fixed ones. Separators have no
part in what is understood. A pattern is understood as a whole or not at all: if one of its items
cannot be filled, what the items before it would give is not used.
-/

namespace LogTree

namespace PatternParts

private theorem isSome_mapM_iff {Item Text : Type} (text : Item → Option Text)
    (items : List Item) : (items.mapM text).isSome ↔ ∀ item ∈ items, (text item).isSome := by
  induction items with
  | nil => simp
  | cons item items induction =>
    rw [List.mapM_cons, List.forall_mem_cons, ← induction]
    cases text item with
    | none => simp
    | some first => cases items.mapM text <;> simp

/-- A pattern can be filled if all its directives are known and each item finds the parts that it
asks for. -/
theorem isSome_format?_iff (parts : PatternParts) (pattern : String) :
    (parts.format? pattern).isSome ↔
      ∃ items, PatternItem.parse? pattern.toList = some items ∧
        ∀ item ∈ items, (item.text parts).isSome := by
  rw [format?]
  cases read : PatternItem.parse? pattern.toList with
  | none => simp
  | some items =>
    have filled := isSome_mapM_iff (PatternItem.text parts) items
    cases texts : items.mapM (PatternItem.text parts) <;> simp_all

end PatternParts

namespace Atom

/-- The parts that a pattern may ask for, if the atom is a date or a time. -/
def patternParts? : Atom → Option PatternParts
  | instant moment => some (.ofUniversal moment)
  | offsetDateTime moment => some (.ofOffset moment)
  | localDateTime moment => some (.ofLocal moment)
  | date value => some (.ofDate value)
  | time value => some (.ofTime value)
  | _ => none

end Atom

namespace Scalar

open NumericFormat

/-- A scalar understands a format. -/
inductive Understands (format : String) : Scalar → Prop where
  /-- It is an integer, and the format is a numeric one for integers. -/
  | integer {scalar : Scalar} {integer : Integer} {numeric : NumericFormat} :
      scalar.integer? = some integer → Understood integerLetters format numeric →
      Understands format scalar
  /-- It is a finite floating point number, and the format is a numeric one for such numbers. -/
  | float {scalar : Scalar} {datum : FloatDatum} {numeric : NumericFormat} :
      scalar.float? = some datum → datum.isFinite → Understood floatLetters format numeric →
      Understands format scalar
  /-- It is a date or a time, and all items of the pattern can be filled with its parts. -/
  | moment {value : Atom} {parts : PatternParts} {items : List PatternItem} :
      value.patternParts? = some parts → PatternItem.parse? format.toList = some items →
      (∀ item ∈ items, (item.text parts).isSome) → Understands format (atom value)
  /-- It is a text, and the format asks for it without quotation marks. -/
  | text {content : String} : format = "l" → Understands format (text content)
  /-- It is a named constant, and the format asks for its number or its name. -/
  | constant {value : EnumConstant} : format ∈ ["D", "d", "X", "x", "G", "g"] →
      Understands format (constant value)

theorem isSome_formatted?_of_integer? {scalar : Scalar} {integer : Integer}
    (held : scalar.integer? = some integer) (format : String) (provider : Option Separators) :
    (scalar.formatted? format provider).isSome ↔
      ∃ numeric, Understood integerLetters format numeric := by
  rw [formatted?_of_integer? held, Option.isSome_map, Option.isSome_iff_exists]
  exact exists_congr fun numeric => ofText?_eq_some_iff

theorem isSome_formatted?_of_float? {scalar : Scalar} {datum : FloatDatum}
    (held : scalar.float? = some datum) (format : String) (provider : Option Separators) :
    (scalar.formatted? format provider).isSome ↔
      datum.isFinite ∧ ∃ numeric, Understood floatLetters format numeric := by
  have read : (scalar.formatted? format provider).isSome ↔
      ∃ numeric, ofText? format = some numeric ∧
        (datum.formatted? (separatorsOf provider) numeric).isSome := by
    rw [formatted?_of_float? held]
    cases ofText? format <;> simp
  simp only [read, isSome_formatted?_iff, ofText?_eq_some_iff, understood_floatLetters_iff]
  constructor
  · rintro ⟨numeric, accepted, finite, suited⟩
    exact ⟨finite, numeric, accepted, suited⟩
  · rintro ⟨finite, numeric, accepted, suited⟩
    exact ⟨numeric, accepted, finite, suited⟩

theorem formatted?_of_patternParts? {value : Atom} {parts : PatternParts}
    (dated : value.patternParts? = some parts) (format : String) (provider : Option Separators) :
    (atom value).formatted? format provider = parts.format? format := by
  cases value with
  | instant | offsetDateTime | localDateTime | date | time =>
    obtain rfl := Option.some.inj dated
    rfl
  | _ => exact absurd dated (Option.some_ne_none parts).symm

theorem isSome_formatted?_constant (format : String) (provider : Option Separators)
    (value : EnumConstant) :
    ((constant value).formatted? format provider).isSome ↔
      format ∈ ["D", "d", "X", "x", "G", "g"] := by
  rw [formatted?]
  fun_cases constantFormatted? format value with
  | case7 => simp_all
  | _ => simp

/-- An atom is an integer, a floating point number, a date or a time, or of a kind without
formats. -/
theorem atom_cases (value : Atom) :
    (∃ integer, (atom value).integer? = some integer) ∨
    (∃ datum, (atom value).float? = some datum) ∨
    (∃ parts, value.patternParts? = some parts) ∨
    ∀ (format : String) (provider : Option Separators),
      (atom value).formatted? format provider = none := by
  cases value with
  | integer value => exact Or.inl ⟨value, rfl⟩
  | single bits => exact Or.inr (Or.inl ⟨_, rfl⟩)
  | double bits => exact Or.inr (Or.inl ⟨_, rfl⟩)
  | instant | offsetDateTime | localDateTime | date | time =>
    exact Or.inr (Or.inr (Or.inl ⟨_, rfl⟩))
  | _ => exact Or.inr (Or.inr (Or.inr fun _ _ => rfl))

/-- A scalar has a text of its own in exactly the formats that it understands, whatever the
separators are. -/
theorem isSome_formatted?_iff_understands (scalar : Scalar) (format : String)
    (provider : Option Separators) :
    (scalar.formatted? format provider).isSome ↔ scalar.Understands format := by
  constructor
  · intro made
    cases scalar with
    | null => simp [formatted?] at made
    | custom value => simp [formatted?] at made
    | text content => exact .text (by simpa [formatted?] using made)
    | constant value => exact .constant ((isSome_formatted?_constant format provider value).mp made)
    | atom value =>
      rcases atom_cases value with ⟨integer, held⟩ | ⟨datum, held⟩ | ⟨parts, dated⟩ | bare
      · obtain ⟨numeric, understood⟩ := (isSome_formatted?_of_integer? held format provider).mp made
        exact .integer held understood
      · obtain ⟨finite, numeric, understood⟩ :=
          (isSome_formatted?_of_float? held format provider).mp made
        exact .float held finite understood
      · rw [formatted?_of_patternParts? dated] at made
        obtain ⟨items, read, filled⟩ := (parts.isSome_format?_iff format).mp made
        exact .moment dated read filled
      · simp [bare] at made
  · intro understands
    cases understands with
    | integer held understood =>
      exact (isSome_formatted?_of_integer? held format provider).mpr ⟨_, understood⟩
    | float held finite understood =>
      exact (isSome_formatted?_of_float? held format provider).mpr ⟨finite, _, understood⟩
    | moment dated read filled =>
      rw [formatted?_of_patternParts? dated]
      exact (PatternParts.isSome_format?_iff _ format).mpr ⟨_, read, filled⟩
    | text asked => simp [formatted?, asked]
    | constant asked => exact (isSome_formatted?_constant format provider _).mpr asked

/-- In a format that it does not understand a scalar is rendered as without one. -/
theorem render_of_not_understands {scalar : Scalar} {format : String}
    (strange : ¬ scalar.Understands format) (provider : Option Separators) :
    scalar.render (some format) provider = scalar.render none provider := by
  have refused : ¬ (scalar.formatted? format provider).isSome := fun made =>
    strange ((scalar.isSome_formatted?_iff_understands format provider).mp made)
  exact render_of_not_understood (Option.not_isSome_iff_eq_none.mp refused)

end Scalar

end LogTree
