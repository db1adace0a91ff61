import LogTree.Capture.Notice
import LogTree.Proofs.Entries
import LogTree.Proofs.Tree.Size

/-!
# Layers

A layer is what one level of a conversion makes of a value: a scalar, or a composite tree with
places for the values inside of it. Filling the places with trees gives a tree. A mapping that is
kept as pairs is told apart from a sequence, which its tree no longer shows.
-/

namespace LogTree

/-- Traversals with acts that agree on all items agree. -/
theorem Logged.traverse_congr {Item Result : Type} {first second : Item → Logged Result}
    {items : List Item} (same : ∀ item ∈ items, first item = second item) :
    Logged.traverse first items = Logged.traverse second items := by
  induction items with
  | nil => rfl
  | cons item items induction =>
    rw [traverse, traverse, same item List.mem_cons_self,
      induction fun other member => same other (List.mem_cons_of_mem item member)]

theorem Logged.traverse_map {Item Other Result : Type} (change : Item → Other)
    (act : Other → Logged Result) (items : List Item) :
    Logged.traverse act (items.map change) =
      Logged.traverse (fun item => act (change item)) items := by
  induction items with
  | nil => rfl
  | cons item items induction => rw [List.map_cons, traverse, traverse, induction]

/-- What is said on the way to a result is said on the way to what is made of it. -/
theorem Logged.mem_notices_bind {First Second : Type} {first : Logged First}
    {next : First → Logged Second} {notice : Notice} (said : notice ∈ first.notices) :
    notice ∈ (first >>= next).notices :=
  List.mem_append_left _ said

theorem Logged.mem_notices_traverse {Item Result : Type} {act : Item → Logged Result}
    {items : List Item} {item : Item} (found : item ∈ items) {notice : Notice}
    (said : notice ∈ (act item).notices) : notice ∈ (Logged.traverse act items).notices := by
  rw [notices_traverse]
  exact List.mem_flatMap.mpr ⟨item, found, said⟩

/-- What a member of an object becomes in a record. -/
inductive Slot (Child : Type) where
  /-- Nothing but a notice. -/
  | skipped (notice : Notice)
  /-- A property. -/
  | property (name : String) (content : Child)

namespace Slot

variable {Child First Second : Type}

/-- The property of a slot, if there is one. -/
def property? : Slot Child → Option (String × Child)
  | skipped _ => none
  | property name content => some (name, content)

/-- The slot with another content. -/
def map (change : First → Second) : Slot First → Slot Second
  | skipped notice => skipped notice
  | property name content => property name (change content)

theorem property?_map (change : First → Second) (slot : Slot First) :
    (slot.map change).property? =
      slot.property?.map fun property => (property.1, change property.2) := by
  cases slot <;> rfl

/-- The property of a slot whose content is converted. -/
def run (act : Child → Logged Tree) : Slot Child → Logged (Option (String × Tree))
  | skipped notice => do
    Logged.note notice
    return none
  | property name content => do
    let tree ← act content
    return some (name, tree)

theorem value_run (act : Child → Logged Tree) (slot : Slot Child) :
    (slot.run act).value = (slot.map fun child => (act child).value).property? := by
  cases slot <;> rfl

end Slot

/-- What one level of a conversion makes of a value, with places for the values inside of it. -/
inductive Layer (Child : Type) where
  /-- A scalar. -/
  | scalar (value : Scalar)
  /-- The sequence of a collection. -/
  | sequence (elements : List Child)
  /-- The sequence of the pairs of a mapping. -/
  | pairs (entries : List (Child × Child))
  /-- The dictionary of a mapping, its entries as they are written one after the other. -/
  | dictionary (entries : List (Scalar × Child))
  /-- The record of an object. -/
  | record (tag : Option String) (slots : List (Slot Child))

namespace Layer

variable {Child First Second Third : Type}

/-- The contents of all places in order. -/
def children : Layer Child → List Child
  | scalar _ => []
  | sequence elements => elements
  | pairs entries => entries.flatMap fun entry => [entry.1, entry.2]
  | dictionary entries => entries.map (·.2)
  | record _ slots => (slots.filterMap Slot.property?).map (·.2)

/-- The number of elements, entries or members. -/
def width : Layer Child → Nat
  | scalar _ => 0
  | sequence elements => elements.length
  | pairs entries => entries.length
  | dictionary entries => entries.length
  | record _ slots => slots.length

/-- The layer with other contents. -/
def map (change : First → Second) : Layer First → Layer Second
  | scalar value => scalar value
  | sequence elements => sequence (elements.map change)
  | pairs entries => pairs (entries.map fun entry => (change entry.1, change entry.2))
  | dictionary entries => dictionary (entries.map fun entry => (entry.1, change entry.2))
  | record tag slots => record tag (slots.map (Slot.map change))

/-- The layer in which each key of a dictionary stands once. -/
def merged : Layer Child → Layer Child
  | dictionary entries => dictionary (Entries.ofList entries)
  | other => other

/-- The tree of a layer whose places are filled. -/
def tree : Layer Tree → Tree
  | scalar value => .scalar value
  | sequence elements => .sequence elements
  | pairs entries => .sequence (entries.map fun entry => .sequence [entry.1, entry.2])
  | dictionary entries => .dictionary entries
  | record tag slots => .record tag (slots.filterMap Slot.property?)

/-- The tree of a layer the contents of whose places are converted in order. -/
def run (act : Child → Logged Tree) : Layer Child → Logged Tree
  | scalar value => pure (.scalar value)
  | sequence elements => do
    let trees ← Logged.traverse act elements
    return .sequence trees
  | pairs entries => do
    let trees ← Logged.traverse
      (fun entry => do
        let first ← act entry.1
        let second ← act entry.2
        return Tree.sequence [first, second])
      entries
    return .sequence trees
  | dictionary entries => do
    let trees ← Logged.traverse
      (fun entry => do
        let tree ← act entry.2
        return (entry.1, tree))
      entries
    return .dictionaryOf trees
  | record tag slots => do
    let properties ← Logged.traverse (Slot.run act) slots
    return .record tag (properties.filterMap id)

theorem map_map (first : First → Second) (second : Second → Third) (layer : Layer First) :
    (layer.map first).map second = layer.map fun child => second (first child) := by
  cases layer with
  | record tag slots =>
    simp only [map, List.map_map]
    congr 2
    funext slot
    cases slot <;> rfl
  | _ => simp [map]

theorem map_congr {first second : First → Second} {layer : Layer First}
    (same : ∀ child ∈ layer.children, first child = second child) :
    layer.map first = layer.map second := by
  cases layer with
  | scalar value => rfl
  | sequence elements => exact congrArg sequence (List.map_congr_left same)
  | pairs entries =>
    refine congrArg pairs (List.map_congr_left fun entry member => ?_)
    have key : entry.1 ∈ (pairs entries).children :=
      List.mem_flatMap.mpr ⟨entry, member, List.mem_cons_self⟩
    have value : entry.2 ∈ (pairs entries).children :=
      List.mem_flatMap.mpr ⟨entry, member, List.mem_cons_of_mem entry.1 List.mem_cons_self⟩
    rw [same entry.1 key, same entry.2 value]
  | dictionary entries =>
    refine congrArg dictionary (List.map_congr_left fun entry member => ?_)
    rw [same entry.2 (List.mem_map_of_mem member)]
  | record tag slots =>
    refine congrArg (record tag) (List.map_congr_left fun slot member => ?_)
    cases slot with
    | skipped notice => rfl
    | property name content =>
      have here : content ∈ (record tag slots).children :=
        List.mem_map.mpr ⟨(name, content), List.mem_filterMap.mpr ⟨_, member, rfl⟩, rfl⟩
      rw [Slot.map, Slot.map, same content here]

theorem merged_map (change : First → Second) (layer : Layer First) :
    (layer.map change).merged = layer.merged.map change := by
  cases layer with
  | dictionary entries => exact congrArg dictionary (Entries.ofList_map change entries)
  | _ => rfl

theorem children_map (change : First → Second) (layer : Layer First) :
    (layer.map change).children = layer.children.map change := by
  cases layer with
  | pairs entries => simp [map, children, List.flatMap_map, List.map_flatMap]
  | record tag slots =>
    simp only [map, children, List.filterMap_map, List.map_filterMap]
    congr 1
    funext slot
    cases slot <;> rfl
  | _ => simp [map, children]

theorem mem_children_merged {layer : Layer Child} {child : Child}
    (found : child ∈ layer.merged.children) : child ∈ layer.children := by
  cases layer with
  | dictionary entries => exact Entries.mem_ofList found
  | _ => exact found

/-- The contents that are left in a changed layer were made of contents of the layer. -/
theorem exists_of_mem_children {change : First → Second} {layer : Layer First} {child : Second}
    (found : child ∈ (layer.map change).merged.children) :
    ∃ source ∈ layer.children, change source = child := by
  have changed := mem_children_merged found
  rw [children_map] at changed
  exact List.mem_map.mp changed

theorem width_merged_le (layer : Layer Child) : layer.merged.width ≤ layer.width := by
  cases layer with
  | dictionary entries => exact Entries.length_ofList_le entries
  | _ => exact Nat.le_refl _

theorem value_run (act : Child → Logged Tree) (layer : Layer Child) :
    (layer.run act).value = (layer.map fun child => (act child).value).merged.tree := by
  cases layer with
  | dictionary entries => simp [run, map, merged, tree, Tree.dictionaryOf]
  | record tag slots =>
    have made : slots.filterMap (fun slot => (slot.run act).value) =
        (slots.map (Slot.map fun child => (act child).value)).filterMap Slot.property? := by
      rw [List.filterMap_map]
      exact congrArg (List.filterMap · slots) (funext (Slot.value_run act))
    simp [run, map, merged, tree, made]
  | _ => simp [run, map, merged, tree]

/-- The contents may be put into their places before they are converted. -/
theorem run_map (act : Child → Logged Tree) (layer : Layer Child) :
    (layer.map act).run id = layer.run act := by
  cases layer with
  | record tag slots =>
    have converted (slot : Slot Child) : (slot.map act).run id = slot.run act := by
      cases slot <;> rfl
    simp only [map, run, Logged.traverse_map, converted]
  | _ => simp only [map, run, Logged.traverse_map, id_eq]

theorem run_congr {first second : Child → Logged Tree} {layer : Layer Child}
    (same : ∀ child ∈ layer.children, first child = second child) :
    layer.run first = layer.run second := by
  rw [← run_map, map_congr same, run_map]

/-- What the conversion of a content has to say is said by that of the layer. -/
theorem mem_notices_run {act : Child → Logged Tree} {layer : Layer Child} {child : Child}
    (found : child ∈ layer.children) {notice : Notice} (said : notice ∈ (act child).notices) :
    notice ∈ (layer.run act).notices := by
  cases layer with
  | scalar value => exact absurd found List.not_mem_nil
  | sequence elements => exact Logged.mem_notices_bind (Logged.mem_notices_traverse found said)
  | pairs entries =>
    obtain ⟨entry, member, place⟩ := List.mem_flatMap.mp found
    refine Logged.mem_notices_bind (Logged.mem_notices_traverse member ?_)
    simp only [List.mem_cons, List.not_mem_nil, or_false] at place
    rcases place with rfl | rfl
    · exact Logged.mem_notices_bind said
    · exact List.mem_append_right _ (Logged.mem_notices_bind said)
  | dictionary entries =>
    obtain ⟨entry, member, rfl⟩ := List.mem_map.mp found
    exact Logged.mem_notices_bind
      (Logged.mem_notices_traverse member (Logged.mem_notices_bind said))
  | record tag slots =>
    obtain ⟨property, member, rfl⟩ := List.mem_map.mp found
    obtain ⟨slot, place, read⟩ := List.mem_filterMap.mp member
    refine Logged.mem_notices_bind (Logged.mem_notices_traverse place ?_)
    cases slot with
    | skipped notice => simp [Slot.property?] at read
    | property name content =>
      obtain rfl : (name, content) = property := by simpa [Slot.property?] using read
      exact Logged.mem_notices_bind said

end Layer

end LogTree
