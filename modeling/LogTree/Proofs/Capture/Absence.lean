import LogTree.Capture.DepthLimiter
import LogTree.Proofs.Capture.Place

/-!
# Absent values

An absent value is captured as nothing, whatever policies and modes say, in every place that is left
a level. Below the last level it is no exception: like any other value there, it is kept as text.
-/

namespace LogTree

namespace Value

/-- A value is absent, or it wraps nothing but an absent one. -/
inductive IsAbsent : Value → Prop where
  | bare {value : Value} : value.wrapped? = none → value.optional? = some none → IsAbsent value
  | wrapped {value content : Value} : value.wrapped? = some content → IsAbsent content →
      IsAbsent value

theorem isAbsent_absent (type : TypeRef) : (absent type).IsAbsent :=
  .bare rfl rfl

theorem IsAbsent.pointer {content : Value} (fullName : String) (gone : content.IsAbsent) :
    (pointer fullName content).IsAbsent :=
  .wrapped rfl gone

end Value

namespace Converter

variable {converter : Converter} {objects : Objects} {mode : Mode}

theorem level_of_isAbsent {nested : Mode → Value → Logged Tree} {value : Value}
    (gone : value.IsAbsent) : converter.level objects nested mode value = pure .null := by
  induction gone with
  | bare unwrapped absent =>
    rw [level_eq, unwrapped]
    simp only [byPolicy, absent]
  | wrapped holds _ induction =>
    rw [level_eq]
    simp only [holds]
    exact induction

theorem value_answer_of_isAbsent {content : Value} (gone : content.IsAbsent) (left : Nat) :
    (converter.answer objects mode left (.value content)).value =
      if 0 < left then .null else .text (converter.cut content.display) := by
  cases left with
  | zero => rfl
  | succ left =>
    rw [answer, answerBy, nested, level_of_isAbsent gone, if_pos (Nat.succ_pos left)]
    rfl

variable (objects mode) in
/-- Without added policies the elements of a collection have places inside of the one that the
collection has. -/
theorem placed_element (free : converter.PolicyFree) (unregistered : converter.registered = [])
    (fullName : String) (brackets : Brackets) {elements : List Value} {element : Value}
    (taken : mode ≠ .stringify) (kept : element ∈ converter.kept elements) (levels : Nat) :
    converter.Placed objects mode (levels + 1) (.value (.collection fullName brackets elements))
      levels (.value element) := by
  have unclaimed : converter.claim? mode (.collection fullName brackets elements) = none := by
    have declined : converter.ownScalar? (.collection fullName brackets elements) = none := by
      rw [ownScalar?_eq, scalarAround?, typedScalar?, unregistered]
      rfl
    cases mode with
    | stringify => exact absurd rfl taken
    | default => exact declined
    | destructure =>
      have late : converter.earlyText? (.collection fullName brackets elements) = none :=
        earlyText?_eq_none rfl
      simp [claim?, presentClaim?, late, declined, Value.optional?, Value.callable?,
        Value.descriptor?]
  have settled : converter.settle mode (.collection fullName brackets elements) =
      .form (.collection fullName brackets elements) := by
    rw [settle_eq, unclaimed]
    rfl
  exact .of_settle free settled (List.mem_map_of_mem kept) (.root levels (.value element))

end Converter

namespace DepthLimiter

theorem value_create_of_isAbsent (limiter : DepthLimiter) {objects : Objects} {mode : Mode}
    {content : Value} (gone : content.IsAbsent) :
    ((limiter.factory objects).create (some content) mode).value =
      if limiter.current ≤ limiter.maximum then .null
      else .text (limiter.converter.cut content.display) := by
  change (limiter.nested objects mode content).value = _
  rw [nested]
  by_cases deep : limiter.maximum < limiter.current
  · rw [if_pos deep, if_neg (by omega)]
    rfl
  · rw [if_neg deep, if_pos (by omega), Converter.createAt, Converter.level_of_isAbsent gone]
    rfl

end DepthLimiter

namespace Converter

/-- An absent value is captured as nothing at the root of a tree, in every other place that is left
a level, and by every limiter that hands it over. Elsewhere it is captured as text. -/
theorem absent_captured (converter : Converter) (objects : Objects) (mode : Mode) (content : Value)
    (gone : content.IsAbsent) :
    (∀ depth, converter.createAt objects depth mode content = pure .null) ∧
    (∀ (value : Value) (left : Nat),
      converter.Placed objects mode (converter.depth + 1) (.value value) left (.value content) →
        (converter.convert objects mode value).value.Contains
            (converter.answer objects mode left (.value content)).value ∧
          (converter.answer objects mode left (.value content)).value =
            if 0 < left then .null else .text (converter.cut content.display)) ∧
    ∀ limiter : DepthLimiter,
      ((limiter.factory objects).create none mode).value = .null ∧
        ((limiter.factory objects).create (some content) mode).value =
          if limiter.current ≤ limiter.maximum then .null
          else .text (limiter.converter.cut content.display) := by
  refine ⟨fun depth => level_of_isAbsent gone, fun value left placed => ?_, fun limiter => ?_⟩
  · exact ⟨contains_of_placed placed, value_answer_of_isAbsent gone left⟩
  · exact ⟨rfl, limiter.value_create_of_isAbsent gone⟩

/-- A wrapped absent value in a collection, with one level left. -/
theorem absent_captured_element :
    (Value.pointer "Box" (.absent (.scalar .bool))).IsAbsent ∧
      (ofLimits { depth := 1 } (by decide)).Placed (fun _ => .unit) .default 2
        (.value (.collection "Vec" .square [.pointer "Box" (.absent (.scalar .bool))])) 1
        (.value (.pointer "Box" (.absent (.scalar .bool)))) ∧
      ((ofLimits { depth := 1 } (by decide)).convert (fun _ => .unit) .default
        (.collection "Vec" .square [.pointer "Box" (.absent (.scalar .bool))])).value.Contains
          .null := by
  have gone : (Value.pointer "Box" (.absent (.scalar .bool))).IsAbsent :=
    (Value.isAbsent_absent _).pointer "Box"
  have placed := placed_element (fun _ => .unit) .default
    (policyFree_ofLimits { depth := 1 } (by decide)) rfl "Vec" .square (by decide)
    (List.mem_singleton_self (Value.pointer "Box" (.absent (.scalar .bool)))) 1
  obtain ⟨inside, nothing⟩ := (absent_captured (ofLimits { depth := 1 } (by decide))
    (fun _ => .unit) .default _ gone).2.1 _ 1 placed
  rw [nothing] at inside
  exact ⟨gone, placed, inside⟩

/-- Below the last level an absent value becomes text. -/
theorem not_forall_absent_captured :
    ¬ ∀ (converter : Converter) (objects : Objects) (mode : Mode) (value content : Value)
      (left : Nat), content.IsAbsent →
        converter.Placed objects mode (converter.depth + 1) (.value value) left (.value content) →
          (converter.answer objects mode left (.value content)).value = .null := by
  intro kept
  have placed := placed_element (fun _ => .unit) .default
    (policyFree_ofLimits { depth := 0 } (by decide)) rfl "Vec" .square (by decide)
    (List.mem_singleton_self (Value.absent (.scalar .bool))) 0
  have nothing := kept _ _ _ _ _ _ (Value.isAbsent_absent _) placed
  simp [answer, answerBy, nested, flattened, stringified, Tree.text, Tree.null] at nothing

end Converter

end LogTree
