import LogTree.Capture.Builder
import LogTree.Proofs.Capture.MachineWords

/-!
# Built converters

Calls on a builder leave the limits behind that were set last. A converter is made of them exactly
if every one of them can be used, and is otherwise refused because of the first that cannot. A
converter that was made counts exactly in machine words.
-/

namespace LogTree

namespace BuilderStep

/-- The depth that a call sets, if it sets one. -/
def depth? : BuilderStep → Option Int32
  | .limits value => some value.depth
  | .depth value => some value
  | _ => none

/-- The greatest length of a text that a call sets, if it sets one or removes it. -/
def textLength? : BuilderStep → Option (Option UInt64)
  | .limits value => some value.textLength
  | .textLength value => some (some value)
  | _ => none

/-- The greatest number of elements that a call sets, if it sets one or removes it. -/
def collectionCount? : BuilderStep → Option (Option UInt64)
  | .limits value => some value.collectionCount
  | .collectionCount value => some (some value)
  | _ => none

end BuilderStep

namespace ConverterBuilder

/-- The limits that calls leave behind: each is what the last call that sets it sets it to, and its
default if none does. -/
def lastLimits (calls : List BuilderStep) : Limits where
  depth := (calls.reverse.findSome? BuilderStep.depth?).getD 10
  textLength := (calls.reverse.findSome? BuilderStep.textLength?).getD none
  collectionCount := (calls.reverse.findSome? BuilderStep.collectionCount?).getD none

section Setting

variable {Setting : Type} {setting : Limits → Setting} {set? : BuilderStep → Option Setting}

/-- A limit that a call sets or leaves as it is has, after calls, the value that was set last. -/
theorem setting_steps (of_step : ∀ (builder : ConverterBuilder) (call : BuilderStep),
      setting (builder.step call).limits = (set? call).getD (setting builder.limits))
    (builder : ConverterBuilder) (calls : List BuilderStep) :
    setting (builder.steps calls).limits =
      (calls.reverse.findSome? set?).getD (setting builder.limits) := by
  induction calls generalizing builder with
  | nil => rfl
  | cons call calls induction =>
    have later : builder.steps (call :: calls) = (builder.step call).steps calls := rfl
    rw [later, induction, of_step, List.reverse_cons, List.findSome?_append,
      List.findSome?_singleton, Option.getD_or]

end Setting

theorem depth_step (builder : ConverterBuilder) (call : BuilderStep) :
    (builder.step call).limits.depth = call.depth?.getD builder.limits.depth := by
  cases call <;> rfl

theorem textLength_step (builder : ConverterBuilder) (call : BuilderStep) :
    (builder.step call).limits.textLength = call.textLength?.getD builder.limits.textLength := by
  cases call <;> rfl

theorem collectionCount_step (builder : ConverterBuilder) (call : BuilderStep) :
    (builder.step call).limits.collectionCount =
      call.collectionCount?.getD builder.limits.collectionCount := by
  cases call <;> rfl

theorem limits_steps (calls : List BuilderStep) : (steps {} calls).limits = lastLimits calls := by
  have depth : (steps {} calls).limits.depth = (lastLimits calls).depth :=
    setting_steps depth_step {} calls
  have textLength : (steps {} calls).limits.textLength = (lastLimits calls).textLength :=
    setting_steps textLength_step {} calls
  have collectionCount :
      (steps {} calls).limits.collectionCount = (lastLimits calls).collectionCount :=
    setting_steps collectionCount_step {} calls
  calc (steps {} calls).limits
    _ = ⟨(steps {} calls).limits.depth, (steps {} calls).limits.textLength,
          (steps {} calls).limits.collectionCount⟩ := rfl
    _ = lastLimits calls := by rw [depth, textLength, collectionCount]

variable {builder : ConverterBuilder}

/-- A builder either makes a converter of its limits, which can be used, or reports their error. -/
theorem build_cases (builder : ConverterBuilder) :
    (∃ converter, builder.build = .ok converter ∧ converter.limits = builder.limits) ∨
      ∃ error, builder.build = .error error ∧ builder.limits.error? = some error := by
  rw [build]
  split
  next error refused => exact .inr ⟨error, rfl, refused⟩
  next => exact .inl ⟨_, rfl, rfl⟩

theorem limits_of_build {converter : Converter} (built : builder.build = .ok converter) :
    converter.limits = builder.limits := by
  obtain ⟨other, again, same⟩ | ⟨error, refused, -⟩ := builder.build_cases
  · obtain rfl := Except.ok.inj (built.symm.trans again)
    exact same
  · cases built.symm.trans refused

theorem exists_build_iff : (∃ converter, builder.build = .ok converter) ↔ builder.limits.Valid := by
  constructor
  · rintro ⟨converter, built⟩
    rw [← limits_of_build built]
    exact converter.valid
  · intro valid
    obtain ⟨converter, built, -⟩ | ⟨error, -, refused⟩ := builder.build_cases
    · exact ⟨converter, built⟩
    · exact absurd (refused.symm.trans valid) (Option.some_ne_none error)

theorem build_eq_error_iff {error : CaptureError} :
    builder.build = .error error ↔ builder.limits.error? = some error := by
  obtain ⟨converter, built, same⟩ | ⟨found, refused, report⟩ := builder.build_cases
  · have valid : builder.limits.error? = none := same ▸ converter.valid
    simp [built, valid]
  · rw [refused, report, Except.error.injEq, Option.some.injEq]

/-- Calls on a builder lead to a converter exactly if each of the limits that were set last can be
used, and to the error of the first that cannot be used otherwise. What a converter that was built
counts is there in machine words, and is what it is in natural numbers. -/
theorem build_steps (calls : List BuilderStep) :
    ((∃ converter, (steps {} calls).build = .ok converter) ↔
      ∀ field : Limits.Field, field.Usable (lastLimits calls)) ∧
    (∀ error, (steps {} calls).build = .error error ↔
      ∃ field : Limits.Field, field.Reported (lastLimits calls) error) ∧
    ∀ converter, (steps {} calls).build = .ok converter →
      converter.limits = lastLimits calls ∧ converter.ExactInWords := by
  refine ⟨?_, fun error => ?_, fun converter built => ⟨?_, converter.exactInWords⟩⟩
  · rw [exists_build_iff, limits_steps, Limits.valid_iff]
  · rw [build_eq_error_iff, limits_steps, Limits.error?_eq_some_iff]
  · rw [limits_of_build built, limits_steps]

/-- Calls that set every limit to its greatest or its least value, and a depth that cannot be used
before. -/
def farthest : List BuilderStep :=
  [.depth (-1), .textLength 18446744073709551615, .depth 2147483647, .collectionCount 1]

theorem build_steps_farthest :
    ∃ converter, (steps {} farthest).build = .ok converter ∧
      converter.limits = ⟨2147483647, some 18446744073709551615, some 1⟩ ∧
      converter.ExactInWords := by
  have valid : (lastLimits farthest).Valid := by decide
  obtain ⟨converter, built⟩ := (build_steps farthest).1.mpr (Limits.valid_iff.mp valid)
  obtain ⟨limits, exact_words⟩ := (build_steps farthest).2.2 converter built
  exact ⟨converter, built, limits, exact_words⟩

end ConverterBuilder

end LogTree
