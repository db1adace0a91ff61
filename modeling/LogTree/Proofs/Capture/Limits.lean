import LogTree.Capture.Converter

/-!
# Usable limits

Every limit can be used or not on its own. Limits can be used if every one of them can, and are
otherwise refused because of the first one that cannot be used.
-/

namespace LogTree.Limits

/-- Each of the limits. -/
inductive Field where
  | depth
  | textLength
  | collectionCount
deriving DecidableEq, Repr

namespace Field

/-- All the limits, in the order in which they are checked and written. -/
def all : List Field :=
  [.depth, .textLength, .collectionCount]

/-- Place of a limit in the order in which they are checked. -/
def position : Field → Nat
  | depth => 0
  | textLength => 1
  | collectionCount => 2

/-- A limit can be used: a depth is not negative, a text has room for a character and the mark of a
cut, and a collection has room for an element. -/
def Usable (limits : Limits) : Field → Prop
  | depth => 0 ≤ limits.depth.toInt
  | textLength => ∀ length, limits.textLength = some length → 2 ≤ length.toNat
  | collectionCount => ∀ count, limits.collectionCount = some count → 1 ≤ count.toNat

/-- A limit cannot be used, which is reported as an error. -/
inductive Refused (limits : Limits) : Field → CaptureError → Prop where
  | depth : limits.depth.toInt < 0 →
      Refused limits depth (.invalidConfiguration "ConverterConfig"
        ("maximum_destructuring_depth must not be negative, got " ++
          String.ofList (Digits.signed limits.depth.toInt)))
  | textLength {length : UInt64} : limits.textLength = some length → length.toNat < 2 →
      Refused limits textLength (.invalidConfiguration "ConverterConfig"
        ("maximum_string_length must be at least 2, got " ++
          String.ofList (Digits.decimal length.toNat)))
  | collectionCount : limits.collectionCount = some 0 →
      Refused limits collectionCount (.invalidConfiguration "ConverterConfig"
        "maximum_collection_count must be at least 1")

/-- A limit is refused, and those that are checked before it can be used. -/
def Reported (limits : Limits) (field : Field) (error : CaptureError) : Prop :=
  field.Refused limits error ∧
    ∀ earlier : Field, earlier.position < field.position → earlier.Usable limits

variable {limits : Limits} {field other : Field} {error another : CaptureError}

theorem Refused.not_usable (refused : field.Refused limits error) : ¬ field.Usable limits := by
  intro usable
  cases refused with
  | depth negative => exact Int.not_le.mpr negative usable
  | textLength given short => exact Nat.not_le.mpr short (usable _ given)
  | collectionCount given => exact absurd (usable 0 given) (by decide)

theorem Refused.error_unique (refused : field.Refused limits error)
    (again : field.Refused limits another) : error = another := by
  cases refused with
  | depth => cases again; rfl
  | textLength given =>
    cases again with
    | textLength found =>
      obtain rfl := Option.some.inj (given.symm.trans found)
      rfl
  | collectionCount => cases again; rfl

theorem eq_of_position_eq (same : field.position = other.position) : field = other := by
  cases field <;> cases other <;> first | rfl | exact absurd same (by decide)

theorem Reported.error_unique (reported : field.Reported limits error)
    (again : other.Reported limits another) : error = another := by
  obtain before | same | behind := Nat.lt_trichotomy field.position other.position
  · exact absurd (again.2 field before) reported.1.not_usable
  · obtain rfl := eq_of_position_eq same
    exact reported.1.error_unique again.1
  · exact absurd (reported.2 other behind) again.1.not_usable

end Field

variable {limits : Limits} {error : CaptureError}

theorem depth_neg_iff : limits.depth < 0 ↔ limits.depth.toInt < 0 :=
  Int32.lt_iff_toInt_lt

theorem usable_collectionCount_iff :
    Field.collectionCount.Usable limits ↔ limits.collectionCount ≠ some 0 := by
  constructor
  · intro usable none_left
    exact absurd (usable 0 none_left) (by decide)
  · intro some_left count given
    refine Nat.pos_of_ne_zero fun zero => some_left ?_
    rw [given, UInt64.toNat_inj.mp (zero.trans UInt64.toNat_zero.symm)]

/-- Limits either can all be used, or they are refused because of the first that cannot. -/
theorem error?_cases (limits : Limits) :
    (limits.error? = none ∧ ∀ field : Field, field.Usable limits) ∨
      ∃ (field : Field) (error : CaptureError),
        limits.error? = some error ∧ field.Reported limits error := by
  by_cases negative : limits.depth < 0
  · refine .inr ⟨.depth, _, if_pos negative, .depth (depth_neg_iff.mp negative), ?_⟩
    intro earlier before
    exact absurd before (Nat.not_lt_zero _)
  have depth : Field.depth.Usable limits := Int.not_lt.mp (negative ∘ depth_neg_iff.mpr)
  by_cases short : ∃ length, limits.textLength = some length ∧ length < 2
  · obtain ⟨length, given, short⟩ := short
    refine .inr ⟨.textLength, _, ?_, .textLength given (UInt64.lt_iff_toNat_lt.mp short), ?_⟩
    · rw [error?, if_neg negative, given]
      exact if_pos short
    · intro earlier before
      cases earlier with
      | depth => exact depth
      | textLength | collectionCount => exact absurd before (by decide)
  have length : Field.textLength.Usable limits := fun length given =>
    UInt64.le_iff_toNat_le.mp (UInt64.not_lt.mp fun small => short ⟨length, given, small⟩)
  have counted : limits.error? = error?.countError? limits := by
    rw [error?, if_neg negative]
    split
    next length given => exact if_neg fun small => short ⟨length, given, small⟩
    next => rfl
  by_cases none_left : limits.collectionCount = some 0
  · refine .inr ⟨.collectionCount, _, counted.trans (if_pos none_left),
      .collectionCount none_left, ?_⟩
    intro earlier before
    cases earlier with
    | depth => exact depth
    | textLength => exact length
    | collectionCount => exact absurd before (Nat.lt_irrefl _)
  · refine .inl ⟨counted.trans (if_neg none_left), fun field => ?_⟩
    cases field with
    | depth => exact depth
    | textLength => exact length
    | collectionCount => exact usable_collectionCount_iff.mpr none_left

/-- Limits can be used as a whole exactly if every one of them can. -/
theorem valid_iff : limits.Valid ↔ ∀ field : Field, field.Usable limits := by
  obtain ⟨nothing, usable⟩ | ⟨field, error, report, reported⟩ := limits.error?_cases
  · exact ⟨fun _ => usable, fun _ => nothing⟩
  · constructor
    · intro valid
      exact absurd (report.symm.trans valid) (Option.some_ne_none error)
    · intro usable
      exact absurd (usable field) reported.1.not_usable

/-- The error of limits is the one of the first limit that cannot be used. -/
theorem error?_eq_some_iff :
    limits.error? = some error ↔ ∃ field : Field, field.Reported limits error := by
  obtain ⟨nothing, usable⟩ | ⟨field, found, report, reported⟩ := limits.error?_cases
  · constructor
    · intro report
      exact absurd (report.symm.trans nothing) (Option.some_ne_none error)
    · rintro ⟨field, reported⟩
      exact absurd (usable field) reported.1.not_usable
  · constructor
    · intro again
      obtain rfl := Option.some.inj (report.symm.trans again)
      exact ⟨field, reported⟩
    · rintro ⟨other, again⟩
      rw [report, reported.error_unique again]

end LogTree.Limits

namespace LogTree.Converter

/-- Every limit of a converter can be used. -/
theorem usable (converter : Converter) (field : Limits.Field) : field.Usable converter.limits :=
  Limits.valid_iff.mp converter.valid field

end LogTree.Converter
