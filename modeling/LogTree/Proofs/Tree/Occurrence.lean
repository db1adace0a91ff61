import LogTree.Proofs.Tree.Size
import Mathlib.Algebra.Order.BigOperators.Group.List
import Mathlib.Logic.Relation

/-!
# Trees inside of trees

A tree contains what stands in its places for values, at any distance from the root. What is shown
of a tree from the trees directly below it holds of all trees, and a property of the root and of
everything inside of the trees below it is one of everything inside of the tree.
-/

namespace LogTree.Tree

/-- A tree is another one or stands for a value somewhere inside of it. -/
def Contains : Tree → Tree → Prop :=
  Relation.ReflTransGen fun outer inner => inner ∈ outer.children

theorem Contains.refl (tree : Tree) : tree.Contains tree :=
  Relation.ReflTransGen.refl

theorem Contains.head {outer middle inner : Tree} (first : middle ∈ outer.children)
    (rest : middle.Contains inner) : outer.Contains inner :=
  Relation.ReflTransGen.head first rest

/-- A tree is the root, or it stands in one of the trees below the root. -/
theorem contains_iff {outer inner : Tree} :
    outer.Contains inner ↔ outer = inner ∨ ∃ child ∈ outer.children, child.Contains inner := by
  constructor
  · intro contained
    rcases Relation.ReflTransGen.cases_head contained with same | ⟨child, below, rest⟩
    · exact Or.inl same
    · exact Or.inr ⟨child, below, rest⟩
  · rintro (rfl | ⟨child, below, rest⟩)
    · exact .refl outer
    · exact .head below rest

/-- A scalar contains nothing but itself. -/
theorem Contains.eq_of_scalar {value : Scalar} {inner : Tree}
    (contained : (scalar value).Contains inner) : scalar value = inner := by
  rcases contains_iff.mp contained with same | ⟨child, below, -⟩
  · exact same
  · exact absurd below List.not_mem_nil

theorem nodes_lt_of_mem_children {tree child : Tree} (below : child ∈ tree.children) :
    child.nodes < tree.nodes := by
  rw [nodes_eq tree]
  exact Nat.lt_succ_of_le (List.le_sum_of_mem (List.mem_map_of_mem below))

/-- What holds of a tree if it holds of the trees directly below it holds of all trees. -/
@[elab_as_elim]
theorem children_induction {motive : Tree → Prop}
    (step : ∀ tree : Tree, (∀ child ∈ tree.children, motive child) → motive tree)
    (tree : Tree) : motive tree := by
  induction large : tree.nodes using Nat.strongRecOn generalizing tree with
  | ind size induction =>
    subst large
    exact step tree fun child below => induction _ (nodes_lt_of_mem_children below) child rfl

/-- A tree and all trees inside of it have a property. -/
def Everywhere (property : Tree → Prop) (tree : Tree) : Prop :=
  ∀ inner, tree.Contains inner → property inner

theorem everywhere_iff {property : Tree → Prop} {tree : Tree} :
    tree.Everywhere property ↔
      property tree ∧ ∀ child ∈ tree.children, child.Everywhere property := by
  constructor
  · intro everywhere
    exact ⟨everywhere tree (.refl tree), fun child below inner contained =>
      everywhere inner (.head below contained)⟩
  · rintro ⟨root, inside⟩ inner contained
    rcases contains_iff.mp contained with rfl | ⟨child, below, further⟩
    · exact root
    · exact inside child below inner further

theorem everywhere_scalar {property : Tree → Prop} {value : Scalar}
    (holds : property (scalar value)) : (scalar value).Everywhere property :=
  everywhere_iff.mpr ⟨holds, fun _ below => absurd below List.not_mem_nil⟩

end LogTree.Tree
