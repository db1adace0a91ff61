import LogTree.Proofs.Number.Separators
import LogTree.Proofs.Scalar.NumericFormats

/-!
# Numbers with other separators

An integer or a floating point number is rendered with some separators as with the invariant ones,
points and commas being replaced: in the formats that it understands and in its default form, which
for a floating point number may have a point.
-/

namespace LogTree.Scalar

/-- A scalar is an integer or a floating point number. -/
inductive IsNumber (scalar : Scalar) : Prop where
  | integer {integer : Integer} (held : scalar.integer? = some integer)
  | float {datum : FloatDatum} (held : scalar.float? = some datum)

theorem formatted?_replaced {scalar : Scalar} (number : scalar.IsNumber) (text : String)
    (separators : Separators) :
    scalar.formatted? text (some separators) =
      (scalar.formatted? text (some .invariant)).map separators.replacedIn := by
  cases number with
  | @integer integer held =>
    simp only [formatted?_of_integer? held, Option.map_map]
    refine congrArg (Option.map · _) (funext fun format => ?_)
    rw [Function.comp_apply, Separators.replacedIn_ofList]
    exact congrArg String.ofList (integer.onlyReplaces_formatted format separators)
  | @float datum held =>
    simp only [formatted?_of_float? held, Option.map_bind]
    refine congrArg (Option.bind _) (funext fun format => ?_)
    have same := datum.formatted?_replaced format separators
    simp only [Function.comp_apply, separatorsOf, Option.getD_some, same, Option.map_map]
    refine congrArg (Option.map · _) (funext fun characters => ?_)
    exact (separators.replacedIn_ofList characters).symm

theorem withDecimal_eq_replacedIn {content : String} (comma : ',' ∉ content.toList)
    (separators : Separators) :
    withDecimal separators content = separators.replacedIn content := by
  rw [withDecimal, Separators.replacedIn]
  refine congrArg String.ofList (List.map_congr_left fun character among => ?_)
  have apart : character ≠ ',' := fun same => comma (same ▸ among)
  simp only [Separators.replaced, if_neg apart]

theorem withDecimal_invariant (content : String) : withDecimal .invariant content = content := by
  have kept (character : Char) : (if character = '.' then '.' else character) = character := by
    split <;> simp_all
  simp [withDecimal, Separators.invariant, kept]

theorem rendered_of_integer? {scalar : Scalar} {integer : Integer}
    (held : scalar.integer? = some integer) (provider : Option Separators) :
    scalar.rendered provider = integer.text := by
  fun_cases integer? scalar with
  | case1 value =>
    rw [← Option.some.inj held]
    rfl
  | case2 => simp_all [integer?]

theorem exists_rendered_of_float? {scalar : Scalar} {datum : FloatDatum}
    (held : scalar.float? = some datum) :
    ∃ format : BinaryFormat, ∀ provider, scalar.rendered provider =
      withDecimal (separatorsOf provider) (datum.text format .plain) := by
  fun_cases float? scalar with
  | case1 bits => exact ⟨.single, fun provider => by rw [← Option.some.inj held, rendered]⟩
  | case2 bits => exact ⟨.double, fun provider => by rw [← Option.some.inj held, rendered]⟩
  | case3 => simp_all [float?]

theorem rendered_replaced {scalar : Scalar} (number : scalar.IsNumber) (separators : Separators) :
    scalar.rendered (some separators) =
      separators.replacedIn (scalar.rendered (some .invariant)) := by
  cases number with
  | @integer integer held =>
    rw [rendered_of_integer? held, rendered_of_integer? held, Separators.replacedIn,
      ← integer.onlyReplaces_text separators, String.ofList_toList]
  | @float datum held =>
    obtain ⟨format, shown⟩ := exists_rendered_of_float? held
    rw [shown, shown, separatorsOf, separatorsOf, Option.getD_some, Option.getD_some,
      withDecimal_invariant, withDecimal_eq_replacedIn (datum.comma_not_mem_text format)]

theorem render_replaced {scalar : Scalar} (number : scalar.IsNumber) (format : Option String)
    (separators : Separators) :
    scalar.render format (some separators) =
      separators.replacedIn (scalar.render format (some .invariant)) := by
  cases format with
  | none => exact rendered_replaced number separators
  | some text =>
    simp only [render, Option.bind_some]
    rw [formatted?_replaced number, rendered_replaced number, Option.getD_map]

theorem render_invariant (scalar : Scalar) (format : Option String) :
    scalar.render format none = scalar.render format (some .invariant) :=
  rfl

end LogTree.Scalar
