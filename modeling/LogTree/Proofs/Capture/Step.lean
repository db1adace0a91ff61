import LogTree.Proofs.Capture.Place

/-!
# Steps of a conversion

Whatever the policies are, a value that is no wrapper is claimed by its mode or by a policy, or it
becomes what its content or its form becomes. Notices aside, the claims and the trees of the values
inside decide what a level makes of a value.
-/

namespace LogTree

theorem Logged.value_firstAnswer {Item Result : Type} (ask : Item → Logged (Option Result))
    (items : List Item) :
    (Logged.firstAnswer ask items).value = items.findSome? fun item => (ask item).value := by
  induction items with
  | nil => rfl
  | cons item items induction =>
    rw [firstAnswer, value_bind, List.findSome?_cons]
    cases (ask item).value with
    | none => exact induction
    | some result => rfl

/-- A property of the tree of a layer and of sequences, as pairs are, holds everywhere in that tree
if it holds everywhere in what fills the places. -/
theorem Layer.everywhere_tree {property : Tree → Prop} {layer : Layer Tree}
    (root : property layer.tree) (sequences : ∀ elements, property (.sequence elements))
    (inside : ∀ child ∈ layer.children, child.Everywhere property) :
    layer.tree.Everywhere property := by
  refine Tree.everywhere_iff.mpr ⟨root, ?_⟩
  cases layer with
  | scalar value => exact fun _ below => absurd below List.not_mem_nil
  | pairs entries =>
    intro pair below
    obtain ⟨entry, listed, rfl⟩ := List.mem_map.mp below
    exact Tree.everywhere_iff.mpr ⟨sequences _, fun part place =>
      inside part (List.mem_flatMap.mpr ⟨entry, listed, place⟩)⟩
  | _ => exact inside

namespace Converter

variable (converter : Converter) (objects : Objects) (mode : Mode)
  (nested : Mode → Value → Logged Tree)

/-- The scalar that the scalar policies make of a value. -/
def scalarAnswer (value : Value) : Option Scalar :=
  ((converter.factory objects nested).scalar value).value

/-- The scalar that the added scalar policies of a converter make of a value. -/
def addedScalar? (value : Value) (factory : Factory) : Option Scalar :=
  converter.scalarPolicies.findSome? fun policy => (policy value factory).value

/-- The tree that the added destructuring policies of a converter make of a value. -/
def addedTree? (value : Value) (factory : Factory) : Option Tree :=
  converter.destructuringPolicies.findSome? fun policy => (policy value factory).value

/-- The tree that the destructuring policies make of a value. -/
def treeAnswer (value : Value) : Option Tree :=
  (Logged.firstAnswer (fun policy => policy value (converter.factory objects nested))
    converter.allDestructuringPolicies).value

/-- The tree that the mode or a policy makes of a value that is there. -/
def presentTree? (value : Value) : Mode → Option Tree
  | .default => (converter.scalarAnswer objects nested value).map .scalar
  | .stringify => some (converter.stringified value)
  | .destructure =>
    ((converter.earlyText? value).map .text).or <|
      ((converter.scalarAnswer objects nested value).map .scalar).or
        (converter.treeAnswer objects nested value)

/-- The tree that is made of a value that is no wrapper, if it is not converted by its form. -/
def claimedTree? (value : Value) : Option Tree :=
  match value.optional? with
  | some none => some .null
  | _ => converter.presentTree? objects nested value mode

theorem value_byScalar (value : Value) (otherwise : Unit → Logged Tree) :
    (converter.byScalar objects nested value otherwise).value =
      ((converter.scalarAnswer objects nested value).map .scalar).getD (otherwise ()).value := by
  rw [byScalar, Logged.value_bind, scalarAnswer]
  cases ((converter.factory objects nested).scalar value).value <;> rfl

theorem value_keyOf (key : Value) :
    (converter.keyOf objects nested key).value =
      (converter.scalarAnswer objects nested key).getD (.text key.display) := by
  rw [keyOf, Logged.value_bind, scalarAnswer]
  cases ((converter.factory objects nested).scalar key).value <;> rfl

theorem value_byDestructuring (value : Value) (otherwise : Unit → Logged Tree) :
    (converter.byDestructuring objects nested value otherwise).value =
      (converter.treeAnswer objects nested value).getD (otherwise ()).value := by
  rw [byDestructuring, Logged.value_bind, treeAnswer]
  cases (Logged.firstAnswer (fun policy => policy value (converter.factory objects nested))
    converter.allDestructuringPolicies).value <;> rfl

private theorem value_byMode (value : Value) (otherwise : Unit → Logged Tree) :
    (match mode with
      | .default => converter.byScalar objects nested value otherwise
      | .stringify => pure (converter.stringified value)
      | .destructure =>
        match converter.earlyText? value with
        | some content => pure (.text content)
        | none =>
          converter.byScalar objects nested value fun _ =>
            converter.byDestructuring objects nested value otherwise).value =
      (converter.presentTree? objects nested value mode).getD (otherwise ()).value := by
  cases mode with
  | default => exact converter.value_byScalar objects nested value otherwise
  | stringify => rfl
  | destructure =>
    simp only [presentTree?]
    cases converter.earlyText? value with
    | some content => rfl
    | none =>
      rw [value_byScalar, value_byDestructuring]
      cases converter.scalarAnswer objects nested value <;> rfl

theorem value_byPolicy (value : Value) (otherwise : Unit → Logged Tree) :
    (converter.byPolicy objects nested mode value otherwise).value =
      (converter.claimedTree? objects mode nested value).getD (otherwise ()).value := by
  unfold byPolicy claimedTree?
  rcases value.optional? with _ | _ | content
  · exact converter.value_byMode objects mode nested value otherwise
  · rfl
  · exact converter.value_byMode objects mode nested value otherwise

/-- What a level makes of a value, notices aside. -/
theorem value_level (value : Value) :
    (converter.level objects nested mode value).value =
      match value.wrapped? with
      | some content => (converter.level objects nested mode content).value
      | none =>
        (converter.claimedTree? objects mode nested value).getD
          (match value.optional? with
            | some (some content) => (converter.level objects nested mode content).value
            | _ => (converter.byForm objects nested mode value).value) := by
  rw [level_eq]
  cases value.wrapped? with
  | some content => rfl
  | none =>
    simp only [value_byPolicy]
    rcases value.optional? with _ | _ | content <;> rfl

variable {converter objects mode nested}

/-- A level makes of a value what some value is claimed as, or what the form of some value
becomes. -/
theorem value_level_cases (nested : Mode → Value → Logged Tree) (value : Value) :
    (∃ inner, converter.claimedTree? objects mode nested inner =
      some (converter.level objects nested mode value).value) ∨
    ∃ inner, (converter.level objects nested mode value).value =
      (converter.byForm objects nested mode inner).value := by
  induction value using Value.content_induction with
  | step value wrapped present =>
    rw [value_level]
    cases holds : value.wrapped? with
    | some content => exact wrapped content holds
    | none =>
      cases claimed : converter.claimedTree? objects mode nested value with
      | some tree => exact Or.inl ⟨value, claimed⟩
      | none =>
        rcases optional : value.optional? with _ | _ | content
        · exact Or.inr ⟨value, rfl⟩
        · exact Or.inr ⟨value, rfl⟩
        · exact present content optional

/-- Added destructuring policies are asked first. -/
theorem treeAnswer_eq_or (value : Value) :
    converter.treeAnswer objects nested value =
      (converter.addedTree? value (converter.factory objects nested)).or
        ((value.callable?.or value.descriptor?).map .text) := by
  rw [treeAnswer, Logged.value_firstAnswer, allDestructuringPolicies, List.findSome?_append,
    addedTree?]
  congr 1
  simp only [DestructuringPolicy.builtIn, findSome?_cons_eq_or, List.findSome?_nil,
    DestructuringPolicy.callable, DestructuringPolicy.descriptor, Logged.value_pure, Option.or_none]
  cases value.callable? <;> rfl

theorem treeAnswer_eq (unreplaced : converter.destructuringPolicies = []) (value : Value) :
    converter.treeAnswer objects nested value =
      (value.callable?.or value.descriptor?).map .text := by
  rw [treeAnswer_eq_or, addedTree?, unreplaced, List.findSome?_nil, Option.none_or]

/-- Only added destructuring policies make anything but scalars of the values that they claim. -/
theorem exists_scalar_of_claimedTree?
    (unreplaced : mode = .destructure → converter.destructuringPolicies = []) {value : Value}
    {tree : Tree} (claimed : converter.claimedTree? objects mode nested value = some tree) :
    ∃ scalar, tree = .scalar scalar := by
  have present (made : converter.presentTree? objects nested value mode = some tree) :
      ∃ scalar, tree = .scalar scalar := by
    cases mode with
    | default =>
      obtain ⟨scalar, -, rfl⟩ := Option.map_eq_some_iff.mp made
      exact ⟨scalar, rfl⟩
    | stringify => exact ⟨_, (Option.some.inj made).symm⟩
    | destructure =>
      rw [presentTree?, treeAnswer_eq (unreplaced rfl)] at made
      rcases Option.or_eq_some_iff.mp made with early | ⟨-, later⟩
      · obtain ⟨content, -, rfl⟩ := Option.map_eq_some_iff.mp early
        exact ⟨.text content, rfl⟩
      · rcases Option.or_eq_some_iff.mp later with own | ⟨-, signed⟩
        · obtain ⟨scalar, -, rfl⟩ := Option.map_eq_some_iff.mp own
          exact ⟨scalar, rfl⟩
        · obtain ⟨content, -, rfl⟩ := Option.map_eq_some_iff.mp signed
          exact ⟨.text content, rfl⟩
  unfold claimedTree? at claimed
  rcases optional : value.optional? with _ | _ | content
  · exact present (by simpa [optional] using claimed)
  · simp only [optional] at claimed
    exact ⟨.null, (Option.some.inj claimed).symm⟩
  · exact present (by simpa [optional] using claimed)

/-- Everything that a value converted by its form can become, whatever the keys of dictionaries. -/
theorem formLayerBy_cases (key : Value → Scalar) (value : Value) :
    (∃ entries, converter.formLayerBy objects mode key value = .dictionary entries) ∨
    (∃ entries, converter.formLayerBy objects mode key value = .pairs entries) ∨
    (∃ elements, converter.formLayerBy objects mode key value = .sequence elements) ∨
    (mode = .destructure ∧ ∃ members : List (Member Value),
      converter.formLayerBy objects mode key value =
        .record (tagOf value.typeName) (members.map (slotOf objects value))) ∨
    ∃ content, converter.formLayerBy objects mode key value = .scalar content := by
  unfold formLayerBy
  cases mapped : value.mapping? with
  | some mapping =>
    by_cases keyed : mapping.key.isDictionaryKey = true
    · exact Or.inl ⟨_, if_pos keyed⟩
    · exact Or.inr (Or.inl ⟨_, (if_neg keyed).trans (if_neg keyed)⟩)
  | none =>
    refine Or.inr (Or.inr ?_)
    simp only [formLayer, mapped]
    cases value.elements? with
    | some elements => exact Or.inl ⟨_, rfl⟩
    | none =>
      refine Or.inr ?_
      cases mode with
      | default => exact Or.inr ⟨_, rfl⟩
      | stringify => exact Or.inr ⟨_, rfl⟩
      | destructure =>
        cases value.members? with
        | some members => exact Or.inl ⟨rfl, members, rfl⟩
        | none => exact Or.inr ⟨_, rfl⟩

/-- A property of sequences and of the trees that forms become is one of everything inside of a
captured tree, unless an added destructuring policy made some of it. -/
theorem everywhere_nested {property : Tree → Prop}
    (unreplaced : mode = .destructure → converter.destructuringPolicies = [])
    (scalars : ∀ scalar, property (.scalar scalar))
    (sequences : ∀ elements, property (.sequence elements))
    (forms : ∀ (key : Value → Scalar) (value : Value) (fill : Request → Tree),
      property ((converter.formLayerBy objects mode key value).map fill).merged.tree)
    (levels : Nat) (value : Value) :
    (converter.nested objects levels mode value).value.Everywhere property := by
  induction levels generalizing value with
  | zero => exact Tree.everywhere_scalar (scalars _)
  | succ levels induction =>
    rcases value_level_cases (converter.nested objects levels) value with
      ⟨inner, claimed⟩ | ⟨inner, formed⟩
    · obtain ⟨scalar, same⟩ := exists_scalar_of_claimedTree? unreplaced claimed
      rw [nested, same]
      exact Tree.everywhere_scalar (scalars scalar)
    · rw [nested, formed, value_byForm]
      refine Layer.everywhere_tree (forms _ inner _) sequences fun child found => ?_
      obtain ⟨request, -, rfl⟩ := Layer.exists_of_mem_children found
      cases request with
      | value content => exact induction content
      | unreadable owner member message => exact Tree.everywhere_scalar (scalars _)

end Converter

end LogTree
