import LogTree.Proofs.Capture.Level

/-!
# Outlines

An outline is a captured tree that still shows at which level each of its composite trees was built,
and which of its sequences stand for the pairs of a mapping. Every conversion without added policies
has an outline, whose tree is what it gives.
-/

namespace LogTree

/-- What is built in a number of levels: a layer at each of them, and a scalar for whatever is left
below the last one. -/
def Outline : Nat → Type
  | 0 => Scalar
  | levels + 1 => Layer (Outline levels)

namespace Outline

/-- The outline of what is left below the last level. -/
def ofScalar (value : Scalar) : Outline 0 :=
  value

/-- The outline of a layer of outlines. -/
def ofLayer {levels : Nat} (layer : Layer (Outline levels)) : Outline (levels + 1) :=
  layer

/-- The tree of an outline. -/
def tree : {levels : Nat} → Outline levels → Tree
  | 0, value => .scalar value
  | _ + 1, layer => (Layer.map tree layer).tree

@[simp]
theorem tree_ofScalar (value : Scalar) : (ofScalar value).tree = .scalar value := rfl

@[simp]
theorem tree_ofLayer {levels : Nat} (layer : Layer (Outline levels)) :
    (ofLayer layer).tree = (layer.map tree).tree := rfl

/-- What holds of scalars, and of a layer if it holds of all outlines with a level less, holds of
all outlines. -/
@[elab_as_elim]
theorem layer_induction {motive : {levels : Nat} → Outline levels → Prop}
    (scalar : ∀ value : Scalar, motive (ofScalar value))
    (layer : ∀ {levels : Nat} (layer : Layer (Outline levels)),
      (∀ child : Outline levels, motive child) → motive (ofLayer layer))
    {levels : Nat} (outline : Outline levels) : motive outline := by
  induction levels with
  | zero => exact scalar outline
  | succ levels induction => exact layer outline induction

end Outline

namespace Converter

variable (converter : Converter) (objects : Objects) (mode : Mode)

/-- The outline of what is asked for, with a number of levels that may be taken apart. -/
def outlineWithin : (levels : Nat) → Request → Outline levels
  | 0, .value content => .ofScalar (.text (converter.cut content.display))
  | 0, .unreadable _ _ message => .ofScalar (.text (unreadableText message))
  | levels + 1, .value content =>
    .ofLayer ((converter.layer objects mode content).map (outlineWithin levels)).merged
  | _ + 1, .unreadable _ _ message => .ofLayer (.scalar (.text (unreadableText message)))

/-- The outline of a value. -/
def outline (value : Value) : Outline (converter.depth + 1) :=
  converter.outlineWithin objects mode (converter.depth + 1) (.value value)

/-- The tree of what is asked for, with a number of levels that may be taken apart. -/
def answer (levels : Nat) : Request → Logged Tree :=
  answerBy mode (converter.nested objects levels)

variable {converter} (free : converter.PolicyFree)

include free

theorem nested_succ_eq_run (levels : Nat) (value : Value) :
    converter.nested objects (levels + 1) mode value =
      (converter.layer objects mode value).run (converter.answer objects mode levels) :=
  level_eq_run objects mode free (converter.nested objects levels) value

/-- Converting with a number of levels gives the tree of the outline with as many. -/
theorem value_answer (levels : Nat) (request : Request) :
    (converter.answer objects mode levels request).value =
      (converter.outlineWithin objects mode levels request).tree := by
  induction levels generalizing request with
  | zero => cases request <;> rfl
  | succ levels induction =>
    cases request with
    | unreadable owner member message => rfl
    | value content =>
      have below := funext induction
      rw [answer, answerBy, nested_succ_eq_run objects mode free, Layer.value_run, below,
        outlineWithin, Outline.tree_ofLayer, ← Layer.merged_map, Layer.map_map]

/-- A value is converted to the tree of its outline. -/
theorem value_convert (value : Value) :
    (converter.convert objects mode value).value =
      (converter.outline objects mode value).tree :=
  value_answer objects mode free (converter.depth + 1) (.value value)

/-- A value at a depth has as many levels left as there are up to the greatest depth. -/
theorem value_createAt (depth : Nat) (value : Value) :
    (converter.createAt objects depth mode value).value =
      (converter.outlineWithin objects mode (converter.depth + 1 - depth + 1)
        (.value value)).tree :=
  value_answer objects mode free (converter.depth + 1 - depth + 1) (.value value)

end Converter

end LogTree
