import LogTree.Proofs.Capture.FlattenedText
import LogTree.Proofs.Capture.Flattening
import LogTree.Proofs.Capture.Mapping
import LogTree.Proofs.Tree.Sameness
import LogTree.Value.Standard

/-!
# Values of well-known types kept as they are

A value of a well-known scalar type is captured as the scalar that holds the same, also behind
transparent wrappers and inside of other values as long as a level is left. The policy for
well-known types comes before all others and looks types up among the well-known ones first, so
registering the type of the value, or adding policies, makes no difference. Only a greatest length
of texts does, where texts are to be taken apart.
-/

namespace LogTree

/-- The kind of the scalars that keep the values of a type. Every type has its own kind, except that
a text is a text however it is held. -/
def ScalarType.kind : ScalarType → ScalarKind
  | unit => .null
  | text _ => .text
  | other => .atom other

namespace Value

theorem IsKeptAs.kind_eq {value : Value} {scalar : Scalar} (same : value.IsKeptAs scalar)
    {type : ScalarType} (known : value.type = .scalar type) : scalar.kind = type.kind := by
  cases same with
  | unit =>
    obtain rfl : ScalarType.unit = type := TypeRef.scalar.inj known
    rfl
  | atom value =>
    obtain rfl : value.type = type := TypeRef.scalar.inj known
    cases value <;> rfl
  | text holding content =>
    obtain rfl : ScalarType.text holding = type := TypeRef.scalar.inj known
    rfl

end Value

namespace Converter

variable {converter : Converter} {objects : Objects} {mode : Mode}

/-- A level looks through all transparent wrappers at once. -/
theorem level_innermost (nested : Mode → Value → Logged Tree) (value : Value) :
    converter.level objects nested mode value.innermost =
      converter.level objects nested mode value := by
  induction value using Value.content_induction with
  | step value wrapped _ =>
    rw [Value.innermost_eq]
    cases holds : value.wrapped? with
    | some content =>
      rw [level_eq converter objects mode nested value, holds]
      exact wrapped content holds
    | none => rfl

theorem level_of_isKeptAs (nested : Mode → Value → Logged Tree) {value : Value} {scalar : Scalar}
    (same : value.IsKeptAs scalar) (untouched : mode ≠ .stringify)
    (late : mode = .destructure → converter.earlyText? value = none) :
    converter.level objects nested mode value = pure (.scalar scalar) :=
  level_of_scalar (Value.wrapped?_of_builtIn? same.builtIn?_eq)
    (Value.optional?_of_builtIn? same.builtIn?_eq) untouched late
    (converter.scalarOf_of_builtIn? same.builtIn?_eq objects _)

/-- Whatever the limits are and whatever was registered or added, a value of a well-known type
behind any transparent wrappers is captured as the scalar of that type that holds the same: always
by default, and to be taken apart unless it is a text and texts have a greatest length. The same is
made of it by every limiter that hands values over. -/
theorem wellKnown_kept (converter : Converter) (objects : Objects) (mode : Mode) {value : Value}
    {type : ScalarType} (known : value.innermost.type = .scalar type)
    (untouched : mode ≠ .stringify)
    (whole : mode = .destructure →
      converter.textLength = none ∨ value.innermost.plainText? = none) :
    ∃ scalar, value.innermost.IsKeptAs scalar ∧ scalar.kind = type.kind ∧
      (∀ depth, converter.createAt objects depth mode value = pure (.scalar scalar)) ∧
      ∀ limiter : DepthLimiter, limiter.converter = converter →
        limiter.current ≤ limiter.maximum →
          (limiter.factory objects).create (some value) mode = pure (.scalar scalar) := by
  obtain ⟨scalar, same⟩ := Value.exists_isKeptAs known
  have late : mode = .destructure → converter.earlyText? value.innermost = none := by
    intro destructured
    rcases whole destructured with unlimited | other
    · rw [earlyText?, unlimited]
      rfl
    · exact earlyText?_eq_none other
  have kept (nested : Mode → Value → Logged Tree) :
      converter.level objects nested mode value = pure (.scalar scalar) := by
    rw [← level_innermost, level_of_isKeptAs nested same untouched late]
  refine ⟨scalar, same, same.kind_eq known, fun depth => kept _, ?_⟩
  rintro limiter rfl shallow
  change limiter.nested objects mode value = _
  rw [DepthLimiter.nested, if_neg (Nat.not_lt.mpr shallow)]
  exact kept _

/-- A converter that would make nothing of texts and of moments, by their types and by policies,
with no level below the first and the least length that texts may have. -/
def usurper : Converter where
  limits := { depth := 0, textLength := some 2 }
  valid := by decide
  registered :=
    [.withConstructor (.scalar (.text .owned)) fun _ => some .null,
      .withConstructor (.scalar .offsetDateTime) fun _ => some .null]
  scalarPolicies := [fun _ _ => pure (some .null)]
  destructuringPolicies := [fun _ _ => pure (some .null)]

/-- By default a text behind two pointers is kept in full. To be taken apart, a moment is kept with
its offset, also in a limiter of its own. -/
theorem wellKnown_kept_usurper :
    (Value.shared (.boxed (.text .owned "in full"))).innermost.type = .scalar (.text .owned) ∧
      usurper.convert (fun _ => .unit) .default (.shared (.boxed (.text .owned "in full"))) =
        pure (.text "in full") ∧
      (Value.boxed (.atom (.offsetDateTime ⟨.ofTimestamp 0 7, 3600⟩))).innermost.type =
        .scalar .offsetDateTime ∧
      (Value.boxed (.atom (.offsetDateTime ⟨.ofTimestamp 0 7, 3600⟩))).innermost.plainText? =
        none ∧
      ((⟨usurper, 3, 3⟩ : DepthLimiter).factory fun _ => .unit).create
          (some (.boxed (.atom (.offsetDateTime ⟨.ofTimestamp 0 7, 3600⟩)))) .destructure =
        pure (.scalar (.atom (.offsetDateTime ⟨.ofTimestamp 0 7, 3600⟩))) := by
  have owned : (Value.shared (.boxed (.text .owned "in full"))).innermost.type =
      .scalar (.text .owned) := rfl
  have moment : (Value.boxed (.atom (.offsetDateTime ⟨.ofTimestamp 0 7, 3600⟩))).innermost.type =
      .scalar .offsetDateTime := rfl
  obtain ⟨_, sameText, -, captured, -⟩ :=
    wellKnown_kept usurper (fun _ => .unit) .default owned Mode.noConfusion Mode.noConfusion
  obtain ⟨_, sameMoment, -, -, handed⟩ :=
    wellKnown_kept usurper (fun _ => .unit) .destructure moment Mode.noConfusion
      fun _ => Or.inr rfl
  cases sameText
  cases sameMoment
  exact ⟨owned, captured 1, moment, rfl, handed ⟨usurper, 3, 3⟩ rfl (Nat.le_refl 3)⟩

end Converter

end LogTree
