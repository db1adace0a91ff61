import LogTree.Proofs.Capture.Outline
import Mathlib.Algebra.Order.BigOperators.Group.List

/-!
# Bounded explosion

Shared and circular objects are captured again wherever they are met, so a small graph can become a
large tree. If collections and objects have a greatest width, the tree does not exceed a capacity,
which depends on the width and the depth alone.
-/

namespace LogTree

/-- The size that trees of a greatest width can have in a number of levels. -/
def capacity (width : Nat) : (levels : Nat) → Nat
  | 0 => 1
  | levels + 1 => 1 + width + 2 * width * capacity width levels

theorem capacity_pos (width levels : Nat) : 1 ≤ capacity width levels := by
  cases levels with
  | zero => exact Nat.le_refl 1
  | succ levels =>
    rw [capacity, Nat.add_assoc]
    exact Nat.le_add_right 1 _

namespace Layer

variable {Child : Type}

theorem width_map {Other : Type} (change : Child → Other) (layer : Layer Child) :
    (layer.map change).width = layer.width := by
  cases layer <;> simp [map, width]

theorem length_children_le (layer : Layer Child) : layer.children.length ≤ 2 * layer.width := by
  cases layer with
  | scalar value => exact Nat.le_refl 0
  | pairs entries => simp [children, width, Nat.mul_comm]
  | record tag slots =>
    have properties := List.length_filterMap_le Slot.property? slots
    rw [children, width, List.length_map]
    omega
  | _ =>
    simp only [children, width, List.length_map]
    omega

/-- Besides what is in the places, there are a node for the layer and one for each pair. -/
theorem nodes_tree_le (layer : Layer Tree) :
    layer.tree.nodes ≤ 1 + layer.width + (layer.children.map Tree.nodes).sum := by
  rw [Tree.nodes_eq]
  cases layer with
  | pairs entries =>
    have pair (entry : Tree × Tree) :
        (Tree.sequence [entry.1, entry.2]).nodes = entry.1.nodes + entry.2.nodes + 1 := by
      rw [Tree.nodes_eq]
      simp [Tree.children]
    simp only [tree, Tree.children, children, width]
    induction entries with
    | nil => simp
    | cons entry entries induction =>
      simp only [List.map_cons, List.sum_cons, List.flatMap_cons, List.map_append,
        List.sum_append, List.length_cons, pair] at induction ⊢
      simp only [List.map_nil, List.sum_nil]
      omega
  | _ =>
    simp only [tree, Tree.children, children, List.map_nil, List.sum_nil]
    omega

/-- What is in the places of a layer is at most twice as many things as the layer is wide. -/
theorem sum_children_le {layer : Layer Child} {weight : Child → Nat} {width bound : Nat}
    (narrow : layer.width ≤ width) (light : ∀ child ∈ layer.children, weight child ≤ bound) :
    (layer.children.map weight).sum ≤ 2 * width * bound := by
  have few := layer.length_children_le
  calc
    (layer.children.map weight).sum ≤ (layer.children.map weight).length • bound :=
      List.sum_le_card_nsmul _ bound (List.forall_mem_map.mpr light)
    _ = layer.children.length * bound := by rw [List.length_map, nsmul_eq_mul, Nat.cast_id]
    _ ≤ 2 * width * bound := Nat.mul_le_mul_right bound (by omega)

theorem nodes_tree_le_capacity {layer : Layer Tree} {width levels : Nat}
    (narrow : layer.width ≤ width)
    (small : ∀ child ∈ layer.children, child.nodes ≤ capacity width levels) :
    layer.tree.nodes ≤ capacity width (levels + 1) := by
  have here := layer.nodes_tree_le
  have below := sum_children_le narrow small
  rw [capacity]
  omega

end Layer

/-- No object that can be reached from a value has more members than a greatest width. -/
def Value.Narrow (objects : Objects) (width : Nat) (value : Value) : Prop :=
  ∀ inner members, Value.Reaches objects value inner → inner.members? = some members →
    members.length ≤ width

theorem Value.Narrow.of_reaches {objects : Objects} {width : Nat} {value inner : Value}
    (narrow : value.Narrow objects width) (reached : Value.Reaches objects value inner) :
    inner.Narrow objects width :=
  fun other members further readable => narrow other members (reached.trans further) readable

theorem Value.narrow_ring : Value.ring.Narrow (fun _ => .ring) 1 := by
  intro inner members reached readable
  rw [Value.eq_ring_of_reaches reached] at readable
  obtain rfl := Option.some.inj readable
  exact Nat.le_refl 1

namespace Converter

section Bounds

variable {converter : Converter} {objects : Objects} (mode : Mode) {count width : Nat}
  (limited : converter.collectionCount = some count) (few : count ≤ width)

include limited few

theorem width_layer_le {value : Value} (narrow : value.Narrow objects width) :
    (converter.layer objects mode value).width ≤ width := by
  rcases layer_cases value with ⟨scalar, layered⟩ | ⟨inner, reached, layered⟩
  · rw [layered]
    exact Nat.zero_le width
  · rw [layered]
    rcases formLayer_cases inner with
      ⟨mapping, -, form⟩ | ⟨elements, -, form⟩ | ⟨members, readable, form⟩ | form
    · have kept := length_kept_le limited mapping.entries
      rw [form, mappingLayer]
      split
      · rw [Layer.width, List.length_map]
        omega
      · rw [Layer.width, List.length_map]
        omega
    · have kept := length_kept_le limited elements
      rw [form, Layer.width, List.length_map]
      omega
    · rw [form, Layer.width, List.length_map]
      exact narrow inner members reached readable
    · rw [form]
      exact Nat.zero_le width

theorem nodes_outlineWithin_le (levels : Nat) (request : Request)
    (narrow : request.Satisfies (Value.Narrow objects width)) :
    (converter.outlineWithin objects mode levels request).tree.nodes ≤ capacity width levels := by
  induction levels generalizing request with
  | zero => cases request <;> exact Nat.le_refl 1
  | succ levels induction =>
    cases request with
    | unreadable owner member message => exact capacity_pos width (levels + 1)
    | value content =>
      have content_narrow := narrow content rfl
      rw [outlineWithin, Outline.tree_ofLayer, ← Layer.merged_map, Layer.map_map]
      refine Layer.nodes_tree_le_capacity ?_ fun tree found => ?_
      · calc
          _ ≤ _ := Layer.width_merged_le _
          _ = (converter.layer objects mode content).width := Layer.width_map _ _
          _ ≤ width := width_layer_le mode limited few content_narrow
      · obtain ⟨place, inside, rfl⟩ := Layer.exists_of_mem_children found
        exact induction place
          (satisfies_of_mem_layer (fun _ reached => content_narrow.of_reaches reached) inside)

/-- The captured tree has no more nodes than the width and the depth allow. -/
theorem nodes_convert_le (free : converter.PolicyFree) (value : Value)
    (narrow : value.Narrow objects width) :
    (converter.convert objects mode value).value.nodes ≤ capacity width (converter.depth + 1) := by
  rw [value_convert objects mode free]
  exact nodes_outlineWithin_le mode limited few _ _ (Request.satisfies_value narrow)

end Bounds

theorem nodes_convert_ring :
    (ofLimits { depth := 3, collectionCount := some 1 } (by decide)).collectionCount = some 1 ∧
      (ofLimits { depth := 3, collectionCount := some 1 } (by decide)).PolicyFree ∧
        Value.ring.Narrow (fun _ => .ring) 1 ∧
          ((ofLimits { depth := 3, collectionCount := some 1 } (by decide)).convert
            (fun _ => .ring) .destructure .ring).value.nodes ≤ capacity 1 4 := by
  have free := policyFree_ofLimits { depth := 3, collectionCount := some 1 } (by decide)
  have limited :
      (ofLimits { depth := 3, collectionCount := some 1 } (by decide)).collectionCount = some 1 :=
    rfl
  exact ⟨limited, free, Value.narrow_ring,
    nodes_convert_le .destructure limited (Nat.le_refl 1) free .ring Value.narrow_ring⟩

end Converter

end LogTree
