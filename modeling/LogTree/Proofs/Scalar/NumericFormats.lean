import LogTree.Scalar.Render

/-!
# Numeric formats that are understood

A numeric format is documented as a letter with decimal digits behind it that denote the number of
digits asked for. A number understands the documented formats of its letters, and besides them those
that have a plus sign before at least one digit, which means the same as without the sign. In every
other format a number is rendered as without one.
-/

namespace LogTree

namespace NumericFormat

/-- The letters of the formats for integers. -/
def integerLetters : List Char := ['D', 'd', 'X', 'x', 'F', 'f', 'N', 'n', 'E', 'e']

/-- The letters of the formats for floating point numbers. -/
def floatLetters : List Char := ['F', 'f', 'N', 'n', 'E', 'e']

/-- Decimal digits ask for as many digits as the number that they denote, which must not be too
great. Without any digits nothing is asked for. -/
inductive AsksFor : List Char → Option Nat → Prop where
  | nothing : AsksFor [] none
  | number {digits : List Char} (written : digits ≠ []) (decimal : ∀ digit ∈ digits, digit.isDigit)
      (small : Nat.ofDigitChars 10 digits 0 ≤ 99) :
      AsksFor digits (some (Nat.ofDigitChars 10 digits 0))

/-- A text is a letter, a sign and digits that stand for a format. -/
def Spells (letters sign : List Char) (text : String) (format : NumericFormat) : Prop :=
  ∃ letter ∈ letters, ∃ digits, text.toList = letter :: (sign ++ digits) ∧
    NumericStyle.ofLetter? letter = some format.style ∧ AsksFor digits format.precision

/-- A text is one of the documented spellings of a format. -/
def Documented (letters : List Char) : String → NumericFormat → Prop :=
  Spells letters []

/-- A text is a spelling of a format with a plus sign before its digits. -/
def Signed (letters : List Char) (text : String) (format : NumericFormat) : Prop :=
  Spells letters ['+'] text format ∧ format.precision ≠ none

/-- A text is one of the spellings of a format that are accepted: a documented one, or one with a
plus sign, which means the same as the text without it. -/
def Understood (letters : List Char) (text : String) (format : NumericFormat) : Prop :=
  Documented letters text format ∨ Signed letters text format

theorem number?_eq_some_iff {text : List Char} {number : Nat} :
    number? text = some number ↔
      ∃ digits ≠ [], (∀ digit ∈ digits, digit.isDigit) ∧ (text = digits ∨ text = '+' :: digits) ∧
        Nat.ofDigitChars 10 digits 0 = number := by
  have plus_apart : ¬ '+'.isDigit := by decide
  by_cases signed : ∃ rest, text = '+' :: rest
  · obtain ⟨rest, rfl⟩ := signed
    constructor
    · intro read
      obtain ⟨⟨written, decimal⟩, value⟩ := by simpa [number?] using read
      exact ⟨rest, written, decimal, Or.inr rfl, value⟩
    · rintro ⟨digits, written, decimal, rfl | same, value⟩
      · exact absurd (decimal '+' List.mem_cons_self) plus_apart
      · obtain rfl : rest = digits := by simpa using same
        simpa [number?, written, value] using decimal
  · have unsigned : number? text =
        if text ≠ [] ∧ text.all Char.isDigit then some (Nat.ofDigitChars 10 text 0) else none := by
      rw [number?]
      exact fun rest same => signed ⟨rest, same⟩
    constructor
    · intro read
      obtain ⟨⟨written, decimal⟩, value⟩ := by simpa [unsigned] using read
      exact ⟨text, written, decimal, Or.inl rfl, value⟩
    · rintro ⟨digits, written, decimal, rfl | same, value⟩
      · simpa [unsigned, written, value] using decimal
      · exact absurd ⟨digits, same⟩ signed

theorem precision?_of_ne_nil {text : List Char} (written : text ≠ []) :
    precision? text = ((number? text).filter (· ≤ greatestPrecision)).map some := by
  rw [precision?, if_neg written]
  cases number? text with
  | none => rfl
  | some number =>
    change (if number ≤ greatestPrecision then some () else none).bind
      (fun _ => some (some number)) = _
    rw [Option.filter_some]
    by_cases small : number ≤ greatestPrecision <;> simp [small]

theorem precision?_eq_some_iff {text : List Char} {precision : Option Nat} :
    precision? text = some precision ↔
      AsksFor text precision ∨
        ∃ digits, text = '+' :: digits ∧ AsksFor digits precision ∧ precision ≠ none := by
  by_cases empty : text = []
  · subst empty
    constructor
    · intro read
      rw [← Option.some.inj read]
      exact Or.inl .nothing
    · rintro (asked | ⟨digits, same, -⟩)
      · cases asked with
        | nothing => rfl
        | number written => exact absurd rfl written
      · simp at same
  · have read_number : precision? text = some precision ↔
        ∃ number, (number? text = some number ∧ number ≤ greatestPrecision) ∧
          some number = precision := by
      simp only [precision?_of_ne_nil empty, Option.map_eq_some_iff, Option.filter_eq_some_iff,
        decide_eq_true_eq]
    rw [read_number]
    constructor
    · rintro ⟨number, ⟨found, small⟩, rfl⟩
      obtain ⟨digits, written, decimal, rfl | rfl, rfl⟩ := number?_eq_some_iff.mp found
      · exact Or.inl (.number written decimal small)
      · exact Or.inr ⟨digits, rfl, .number written decimal small, by simp⟩
    · rintro (asked | ⟨digits, rfl, asked, given⟩)
      · cases asked with
        | nothing => exact absurd rfl empty
        | number written decimal small =>
          have found := number?_eq_some_iff.mpr ⟨text, written, decimal, Or.inl rfl, rfl⟩
          exact ⟨_, ⟨found, small⟩, rfl⟩
      · cases asked with
        | nothing => exact absurd rfl given
        | number written decimal small =>
          have found := number?_eq_some_iff.mpr ⟨digits, written, decimal, Or.inr rfl, rfl⟩
          exact ⟨_, ⟨found, small⟩, rfl⟩

theorem mem_integerLetters {letter : Char} {style : NumericStyle}
    (styled : NumericStyle.ofLetter? letter = some style) : letter ∈ integerLetters := by
  revert styled
  fun_cases NumericStyle.ofLetter? letter <;> rintro ⟨⟩ <;> decide

/-- The texts that are read as a format are its documented spellings and those with a plus sign. -/
theorem ofText?_eq_some_iff {text : String} {format : NumericFormat} :
    ofText? text = some format ↔ Understood integerLetters text format := by
  constructor
  · intro read
    rw [ofText?] at read
    split at read
    · simp at read
    · rename_i letter rest characters
      obtain ⟨style, styled, remaining⟩ := Option.bind_eq_some_iff.mp read
      obtain ⟨precision, measured, made⟩ := Option.bind_eq_some_iff.mp remaining
      obtain rfl : ⟨style, precision⟩ = format := Option.some.inj made
      have listed := mem_integerLetters styled
      rcases precision?_eq_some_iff.mp measured with asked | ⟨digits, rfl, asked, given⟩
      · exact Or.inl ⟨letter, listed, rest, characters, styled, asked⟩
      · exact Or.inr ⟨⟨letter, listed, digits, characters, styled, asked⟩, given⟩
  · have read_back {letter : Char} {rest : List Char} (characters : text.toList = letter :: rest)
        (styled : NumericStyle.ofLetter? letter = some format.style)
        (measured : precision? rest = some format.precision) : ofText? text = some format := by
      simp [ofText?, characters, styled, measured]
    rintro (⟨letter, -, digits, characters, styled, asked⟩ |
      ⟨⟨letter, -, digits, characters, styled, asked⟩, given⟩)
    · exact read_back characters styled (precision?_eq_some_iff.mpr (Or.inl asked))
    · exact read_back characters styled
        (precision?_eq_some_iff.mpr (Or.inr ⟨digits, rfl, asked, given⟩))

theorem Understood.letter_mem {letters : List Char} {text : String} {format : NumericFormat}
    {first : Char} {rest : List Char} (understood : Understood letters text format)
    (characters : text.toList = first :: rest) : first ∈ letters := by
  rcases understood with ⟨letter, listed, digits, spelled, -⟩ |
    ⟨⟨letter, listed, digits, spelled, -⟩, -⟩ <;>
  · obtain ⟨rfl, -⟩ := List.cons.inj (characters.symm.trans spelled)
    exact listed

/-- Whether floating point numbers are written in a style. -/
def suitsFloats : NumericStyle → Bool
  | .fixed _ | .exponential _ => true
  | .digits | .hex _ => false

theorem mem_floatLetters_iff {letter : Char} {style : NumericStyle}
    (styled : NumericStyle.ofLetter? letter = some style) :
    letter ∈ floatLetters ↔ suitsFloats style := by
  revert styled
  fun_cases NumericStyle.ofLetter? letter <;> rintro ⟨⟩ <;> decide

theorem spells_floatLetters_iff {sign : List Char} {text : String} {format : NumericFormat} :
    Spells floatLetters sign text format ↔
      Spells integerLetters sign text format ∧ suitsFloats format.style := by
  constructor
  · rintro ⟨letter, listed, digits, characters, styled, asked⟩
    exact ⟨⟨letter, mem_integerLetters styled, digits, characters, styled, asked⟩,
      (mem_floatLetters_iff styled).mp listed⟩
  · rintro ⟨⟨letter, -, digits, characters, styled, asked⟩, suited⟩
    exact ⟨letter, (mem_floatLetters_iff styled).mpr suited, digits, characters, styled, asked⟩

theorem understood_floatLetters_iff {text : String} {format : NumericFormat} :
    Understood floatLetters text format ↔
      Understood integerLetters text format ∧ suitsFloats format.style := by
  simp only [Understood, Documented, Signed, spells_floatLetters_iff, or_and_right, and_right_comm]

theorem isSome_formatted?_iff (separators : Separators) (format : NumericFormat)
    (datum : FloatDatum) :
    (datum.formatted? separators format).isSome ↔ datum.isFinite ∧ suitsFloats format.style := by
  obtain ⟨style, precision⟩ := format
  cases datum with
  | finite negative magnitude =>
    cases style <;> simp [FloatDatum.formatted?, FloatDatum.isFinite, suitsFloats]
  | infinite negative => simp [FloatDatum.formatted?, FloatDatum.isFinite]
  | notANumber => simp [FloatDatum.formatted?, FloatDatum.isFinite]

end NumericFormat

namespace Scalar

open NumericFormat

/-- The floating point number that a scalar holds. -/
def float? : Scalar → Option FloatDatum
  | atom (.single bits) => some (singleDatum bits)
  | atom (.double bits) => some (doubleDatum bits)
  | _ => none

theorem formatted?_of_integer? {scalar : Scalar} {integer : Integer}
    (held : scalar.integer? = some integer) (text : String) (provider : Option Separators) :
    scalar.formatted? text provider = (ofText? text).map fun format =>
      String.ofList (integer.formatted (separatorsOf provider) format) := by
  fun_cases integer? scalar with
  | case1 value =>
    obtain rfl : value = integer := by simpa [integer?] using held
    rw [formatted?, atomFormatted?]
    cases ofText? text <;> rfl
  | case2 => simp_all [integer?]

theorem formatted?_of_float? {scalar : Scalar} {datum : FloatDatum}
    (held : scalar.float? = some datum) (text : String) (provider : Option Separators) :
    scalar.formatted? text provider = (ofText? text).bind fun format =>
      (datum.formatted? (separatorsOf provider) format).map String.ofList := by
  have written : scalar.formatted? text provider = floatFormatted? text provider datum := by
    fun_cases float? scalar with
    | case1 bits =>
      obtain rfl : singleDatum bits = datum := by simpa [float?] using held
      rfl
    | case2 bits =>
      obtain rfl : doubleDatum bits = datum := by simpa [float?] using held
      rfl
    | case3 => simp_all [float?]
  rw [written, floatFormatted?]
  cases ofText? text with
  | none => rfl
  | some format =>
    cases shown : datum.formatted? (separatorsOf provider) format <;> simp [shown]

theorem render_of_not_understood {scalar : Scalar} {text : String} {provider : Option Separators}
    (refused : scalar.formatted? text provider = none) :
    scalar.render (some text) provider = scalar.render none provider := by
  simp [render, refused]

theorem render_integer {scalar : Scalar} {integer : Integer}
    (held : scalar.integer? = some integer) {text : String} {format : NumericFormat}
    (understood : Understood integerLetters text format) (provider : Option Separators) :
    scalar.render (some text) provider =
      String.ofList (integer.formatted (separatorsOf provider) format) := by
  have read := ofText?_eq_some_iff.mpr understood
  simp [render, formatted?_of_integer? held, read]

theorem render_float {scalar : Scalar} {datum : FloatDatum} (held : scalar.float? = some datum)
    {text : String} {format : NumericFormat} (understood : Understood integerLetters text format)
    {provider : Option Separators} {form : List Char}
    (made : datum.formatted? (separatorsOf provider) format = some form) :
    scalar.render (some text) provider = String.ofList form := by
  have read := ofText?_eq_some_iff.mpr understood
  simp [render, formatted?_of_float? held, read, made]

/-- A format changes how an integer or a finite floating point number is rendered exactly if it is
understood: it is a letter that suits the number, and behind it stand no digits, or digits that
denote a number of at most 99. The digits may have a plus sign before them, which is not documented.
A number that is not finite is never rendered in a format. -/
theorem render_numeric_format (scalar : Scalar) (text : String) (provider : Option Separators) :
    (∀ integer, scalar.integer? = some integer →
      (∀ format, Understood integerLetters text format →
        scalar.render (some text) provider =
          String.ofList (integer.formatted (separatorsOf provider) format)) ∧
      ((∀ format, ¬ Understood integerLetters text format) →
        scalar.render (some text) provider = scalar.render none provider)) ∧
    (∀ datum, scalar.float? = some datum → datum.isFinite →
      (∀ format, Understood floatLetters text format →
        ∃ form, datum.formatted? (separatorsOf provider) format = some form ∧
          scalar.render (some text) provider = String.ofList form) ∧
      ((∀ format, ¬ Understood floatLetters text format) →
        scalar.render (some text) provider = scalar.render none provider)) ∧
    ∀ datum, scalar.float? = some datum → ¬ datum.isFinite →
      scalar.render (some text) provider = scalar.render none provider := by
  refine ⟨fun integer held => ⟨fun format understood => ?_, fun strange => ?_⟩,
    fun datum held finite => ⟨fun format understood => ?_, fun strange => ?_⟩,
    fun datum held infinite => ?_⟩
  · have read := ofText?_eq_some_iff.mpr understood
    simp [render, formatted?_of_integer? held, read]
  · have unread : ofText? text = none :=
      Option.eq_none_iff_forall_ne_some.mpr fun format read =>
        strange format (ofText?_eq_some_iff.mp read)
    exact render_of_not_understood (by simp [formatted?_of_integer? held, unread])
  · obtain ⟨accepted, suited⟩ := understood_floatLetters_iff.mp understood
    have read := ofText?_eq_some_iff.mpr accepted
    have shown := (isSome_formatted?_iff (separatorsOf provider) format datum).mpr ⟨finite, suited⟩
    obtain ⟨form, made⟩ := Option.isSome_iff_exists.mp shown
    exact ⟨form, made, by simp [render, formatted?_of_float? held, read, made]⟩
  · refine render_of_not_understood (Option.eq_none_iff_forall_ne_some.mpr fun rendering made => ?_)
    rw [formatted?_of_float? held] at made
    obtain ⟨format, read, shown⟩ := Option.bind_eq_some_iff.mp made
    obtain ⟨form, formed, -⟩ := Option.map_eq_some_iff.mp shown
    have suited := (isSome_formatted?_iff (separatorsOf provider) format datum).mp
      (Option.isSome_of_eq_some formed)
    have accepted := ofText?_eq_some_iff.mp read
    exact strange format (understood_floatLetters_iff.mpr ⟨accepted, suited.2⟩)
  · have unformatted (format : NumericFormat) :
        datum.formatted? (separatorsOf provider) format = none := by
      have hidden := isSome_formatted?_iff (separatorsOf provider) format datum
      simpa [infinite] using hidden
    refine render_of_not_understood ?_
    cases read : ofText? text <;> simp [formatted?_of_float? held, read, unformatted]

theorem understood_signed {letters : List Char} (listed : 'F' ∈ letters) :
    Understood letters "F+1" ⟨.fixed false, some 1⟩ :=
  have decimal : ∀ digit ∈ ['1'], digit.isDigit := List.forall_mem_singleton.mpr rfl
  have spelled := AsksFor.number (List.cons_ne_nil '1' []) decimal (by decide)
  Or.inr ⟨⟨'F', listed, ['1'], rfl, rfl, spelled⟩, Option.some_ne_none 1⟩

/-- An integer and a finite number in a format with a plus sign, and numbers in formats that are not
meant for them. -/
theorem render_numeric_format_signed :
    Understood integerLetters "F+1" ⟨.fixed false, some 1⟩ ∧
    (atom (.integer ⟨.int .bits8, -7, by decide⟩)).render (some "F+1") none = "-7.0" ∧
    (∀ format, ¬ Understood integerLetters "1F" format) ∧
    (atom (.integer ⟨.int .bits8, -7, by decide⟩)).render (some "1F") none = "-7" ∧
    Understood floatLetters "F+1" ⟨.fixed false, some 1⟩ ∧
    (atom (.double 0x3ff8000000000000)).render (some "F+1") (some ⟨',', '.'⟩) = "1,5" ∧
    (∀ format, ¬ Understood floatLetters "D2" format) ∧
    (atom (.double 0x3ff8000000000000)).render (some "D2") none = "1.5" ∧
    (atom (.double 0x7ff0000000000000)).render (some "F+1") none = "inf" := by
  have misplaced (format : NumericFormat) : ¬ Understood integerLetters "1F" format :=
    fun understood => absurd (understood.letter_mem rfl) (by decide)
  have integral (format : NumericFormat) : ¬ Understood floatLetters "D2" format :=
    fun understood => absurd (understood.letter_mem rfl) (by decide)
  have tenths := (render_numeric_format (atom (.integer ⟨.int .bits8, -7, by decide⟩)) "F+1" none).1
    _ rfl |>.1 _ (understood_signed (by decide))
  have plain := (render_numeric_format (atom (.integer ⟨.int .bits8, -7, by decide⟩)) "1F" none).1
    _ rfl |>.2 misplaced
  obtain ⟨form, made, shown⟩ := (render_numeric_format (atom (.double 0x3ff8000000000000)) "F+1"
    (some ⟨',', '.'⟩)).2.1 _ rfl (by decide) |>.1 _ (understood_signed (by decide))
  have whole := (render_numeric_format (atom (.double 0x3ff8000000000000)) "D2" none).2.1
    _ rfl (by decide) |>.2 integral
  have infinite := (render_numeric_format (atom (.double 0x7ff0000000000000)) "F+1" none).2.2
    _ rfl (by decide)
  have written : String.ofList form = "1,5" := by
    rw [← Option.some.inj made]
    decide
  exact ⟨understood_signed (by decide), tenths.trans (by decide), misplaced,
    plain.trans (by decide), understood_signed (by decide), shown.trans written, integral,
    whole.trans (by decide), infinite.trans (by decide)⟩

/-- A plus sign is not documented, and yet it is understood. -/
theorem not_forall_render_undocumented :
    ¬ ∀ (integer : Integer) (text : String) (provider : Option Separators),
      (∀ format, ¬ Documented integerLetters text format) →
        (atom (.integer integer)).render (some text) provider =
          (atom (.integer integer)).render none provider := by
  intro unformatted
  have undocumented : ∀ format, ¬ Documented integerLetters "D+5" format := by
    rintro ⟨style, precision⟩ ⟨letter, -, digits, characters, -, asked⟩
    obtain rfl : ['+', '5'] = digits := (List.cons.inj characters).2
    generalize given : ['+', '5'] = digits at asked
    cases asked with
    | nothing => simp at given
    | number written decimal small => exact absurd (decimal '+' (by simp [← given])) (by decide)
  have same := unformatted ⟨.int .bits32, 42, by decide⟩ "D+5" none undocumented
  exact absurd same (by decide)

end Scalar

end LogTree
