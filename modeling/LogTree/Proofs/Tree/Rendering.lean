import LogTree.Proofs.Scalar.Separators
import LogTree.Proofs.Tree.Occurrence
import LogTree.Tree.Render

/-!
# Rendering part by part

The text of a sequence, of a dictionary and of a record is put together from the texts of its parts.
Separators reach the numbers in a tree, where they replace the invariant ones; without any
separators the invariant ones are used.
-/

namespace LogTree.Tree

theorem renderElements_eq_map (format : Option String) (provider : Option Separators)
    (elements : List Tree) :
    render.renderElements format provider elements = elements.map (render format provider) := by
  induction elements with
  | nil => rfl
  | cons element elements induction => rw [render.renderElements, induction, List.map_cons]

theorem renderEntries_eq_map (provider : Option Separators) (entries : List (Scalar × Tree)) :
    render.renderEntries provider entries = entries.map fun entry =>
      "(" ++ entry.1.render none provider ++ ": " ++ entry.2.render none provider ++ ")" := by
  induction entries with
  | nil => rfl
  | cons entry entries induction => rw [render.renderEntries, induction, List.map_cons]

theorem renderProperties_eq_map (provider : Option Separators)
    (properties : List (String × Tree)) :
    render.renderProperties provider properties = properties.map fun property =>
      property.1 ++ ": " ++ property.2.render none provider := by
  induction properties with
  | nil => rfl
  | cons property properties induction => rw [render.renderProperties, induction, List.map_cons]

theorem render_invariant (tree : Tree) (format : Option String) :
    tree.render format none = tree.render format (some .invariant) := by
  induction tree using children_induction generalizing format with
  | step tree induction =>
    cases tree with
    | scalar value => exact value.render_invariant format
    | sequence elements =>
      have same : elements.map (render format none) =
          elements.map (render format (some .invariant)) :=
        List.map_congr_left fun element among => induction element among format
      rw [render, render, renderElements_eq_map, renderElements_eq_map, same]
    | dictionary entries =>
      have same : ∀ entry ∈ entries,
          entry.2.render none none = entry.2.render none (some .invariant) :=
        fun entry among => induction entry.2 (List.mem_map_of_mem among) none
      rw [render, render, renderEntries_eq_map, renderEntries_eq_map,
        List.map_congr_left fun entry among => by rw [same entry among, entry.1.render_invariant]]
    | record tag properties =>
      have same : ∀ property ∈ properties,
          property.2.render none none = property.2.render none (some .invariant) :=
        fun property among => induction property.2 (List.mem_map_of_mem among) none
      simp only [render, renderProperties_eq_map]
      rw [List.map_congr_left fun property among => by rw [same property among]]

/-- Separators do nothing but stand in the places of the invariant ones: an integer or a floating
point number in any format, or without one, is rendered as with the invariant separators, each point
being replaced by the decimal separator and each comma by the group separator. Where no separators
are given, every tree is rendered with the invariant ones. -/
theorem render_separators :
    (∀ scalar : Scalar, scalar.IsNumber → ∀ (format : Option String) (decimal group : Char),
      scalar.render format (some ⟨decimal, group⟩) =
        Separators.replacedIn ⟨decimal, group⟩ (scalar.render format (some .invariant))) ∧
    ∀ (tree : Tree) (format : Option String),
      tree.render format none = tree.render format (some .invariant) :=
  ⟨fun _ number format decimal group => Scalar.render_replaced number format ⟨decimal, group⟩,
    render_invariant⟩

/-- Points and commas are exchanged, which two replacements one after the other would not do. -/
theorem render_separators_exchanged :
    (Scalar.atom (.double 0x40934a0000000000)).IsNumber ∧
    (Scalar.atom (.double 0x40934a0000000000)).render (some "N2") (some ⟨',', '.'⟩) =
      "1.234,50" := by
  have number : (Scalar.atom (.double 0x40934a0000000000)).IsNumber := .float rfl
  have shown : (Scalar.atom (.double 0x40934a0000000000)).render (some "N2") (some .invariant) =
      "1,234.50" := by decide
  have exchanged := render_separators.1 _ number (some "N2") ',' '.'
  rw [shown] at exchanged
  exact ⟨number, exchanged.trans (by decide)⟩

end LogTree.Tree
