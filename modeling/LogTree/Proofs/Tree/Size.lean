import LogTree.Tree.Basic
import Mathlib.Algebra.Order.Ring.Nat

/-!
# Sizes of trees

Two sizes of a tree are of interest: how many composite trees stand inside of one another, and how
many nodes there are. Both are computed in the same way from the sizes of the trees below.
-/

namespace LogTree.Tree

/-- The trees directly below a tree, keys of dictionaries left out. -/
def children : Tree → List Tree
  | scalar _ => []
  | sequence elements => elements
  | dictionary entries => entries.map (·.2)
  | record _ properties => properties.map (·.2)

/-- A size of a tree. Scalars have a given size, and a composite tree is one larger than what the
sizes of the trees below it are joined to. -/
def measure (leaf : Nat) (join : Nat → Nat → Nat) : Tree → Nat
  | scalar _ => leaf
  | sequence elements => ofElements elements + 1
  | dictionary entries => ofEntries entries + 1
  | record _ properties => ofProperties properties + 1
where
  /-- The sizes of elements, joined. -/
  ofElements : List Tree → Nat
    | [] => 0
    | element :: elements => join (measure leaf join element) (ofElements elements)
  /-- The sizes of the trees under keys, joined. -/
  ofEntries : List (Scalar × Tree) → Nat
    | [] => 0
    | (_, value) :: entries => join (measure leaf join value) (ofEntries entries)
  /-- The sizes of the trees under names, joined. -/
  ofProperties : List (String × Tree) → Nat
    | [] => 0
    | (_, value) :: properties => join (measure leaf join value) (ofProperties properties)
termination_by structural tree => tree

/-- The greatest number of composite trees on a way down from the root, the root counted. -/
def nesting (tree : Tree) : Nat :=
  tree.measure 0 max

/-- The number of scalars, sequences, dictionaries and records, keys not counted. -/
def nodes (tree : Tree) : Nat :=
  tree.measure 1 (· + ·)

theorem measure_of_composite (leaf : Nat) (join : Nat → Nat → Nat) (tree : Tree)
    (composite : tree.scalar? = none) :
    tree.measure leaf join = (tree.children.map (measure leaf join)).foldr join 0 + 1 := by
  cases tree with
  | scalar value => simp [scalar?] at composite
  | sequence elements =>
    rw [measure, children]
    congr 1
    induction elements with
    | nil => rfl
    | cons element elements induction => rw [measure.ofElements, induction rfl]; rfl
  | dictionary entries =>
    rw [measure, children]
    congr 1
    induction entries with
    | nil => rfl
    | cons entry entries induction => rw [measure.ofEntries, induction rfl]; rfl
  | record tag properties =>
    rw [measure, children]
    congr 1
    induction properties with
    | nil => rfl
    | cons property properties induction => rw [measure.ofProperties, induction rfl]; rfl

/-- A bound of the greatest of numbers is a bound of each of them. -/
private theorem foldr_max_le_iff (numbers : List Nat) (bound : Nat) :
    numbers.foldr max 0 ≤ bound ↔ ∀ number ∈ numbers, number ≤ bound := by
  induction numbers with
  | nil => simp
  | cons number numbers induction =>
    rw [List.foldr_cons, Nat.max_le, induction, List.forall_mem_cons]

@[simp]
theorem nesting_scalar (value : Scalar) : (scalar value).nesting = 0 := rfl

theorem nesting_le_iff {tree : Tree} (composite : tree.scalar? = none) (bound : Nat) :
    tree.nesting ≤ bound ↔ 1 ≤ bound ∧ ∀ child ∈ tree.children, 1 + child.nesting ≤ bound := by
  rw [nesting, measure_of_composite 0 max tree composite]
  cases bound with
  | zero => simp
  | succ bound =>
    rw [Nat.add_le_add_iff_right, foldr_max_le_iff, List.forall_mem_map]
    simp [nesting, Nat.add_comm 1]

theorem nesting_sequence (elements : List Tree) :
    (sequence elements).nesting = 1 + (elements.map nesting).foldr max 0 := by
  rw [nesting, measure_of_composite 0 max _ rfl, Nat.add_comm]
  rfl

theorem nodes_eq (tree : Tree) : tree.nodes = (tree.children.map nodes).sum + 1 := by
  cases composite : tree.scalar? with
  | none => exact measure_of_composite 1 (· + ·) tree composite
  | some value =>
    obtain ⟨other, rfl⟩ : ∃ other, tree = scalar other := by
      cases tree <;> simp_all [scalar?]
    rfl

end LogTree.Tree
