import LogTree.Capture.DepthLimiter
import LogTree.Proofs.Capture.Outline
import LogTree.Proofs.Tree.Occurrence

/-!
# Places in captured trees

A conversion fills the place of its root and, wherever a value is converted by its form, the places
of the elements, keys, entries and members that are kept. Policies may make any tree of a value, so
there are no places inside of a value that they claim. What fills a place stands in the captured
tree; without added policies every scalar that stands there fills a place.
-/

namespace LogTree

namespace Layer

theorem contains_tree {layer : Layer Tree} {child : Tree} (inside : child ∈ layer.children) :
    layer.tree.Contains child := by
  cases layer with
  | scalar value => exact absurd inside List.not_mem_nil
  | pairs entries =>
    obtain ⟨entry, listed, place⟩ := List.mem_flatMap.mp inside
    have pair : Tree.sequence [entry.1, entry.2] ∈ (tree (pairs entries)).children :=
      List.mem_map_of_mem listed
    exact .head pair (.head place (.refl child))
  | _ => exact .head inside (.refl child)

/-- What stands in the tree of a layer is that tree, the pair of an entry, or what stands in one of
the places. -/
theorem cases_of_contains {layer : Layer Tree} {inner : Tree}
    (contained : layer.tree.Contains inner) :
    layer.tree = inner ∨
      (∃ entries, layer = .pairs entries ∧
        ∃ entry ∈ entries, inner = .sequence [entry.1, entry.2]) ∨
      ∃ child ∈ layer.children, child.Contains inner := by
  rcases Tree.contains_iff.mp contained with same | ⟨child, below, rest⟩
  · exact Or.inl same
  · refine Or.inr ?_
    cases layer with
    | scalar value => exact absurd below List.not_mem_nil
    | pairs entries =>
      obtain ⟨entry, listed, rfl⟩ := List.mem_map.mp below
      rcases Tree.contains_iff.mp rest with same | ⟨part, place, further⟩
      · exact Or.inl ⟨entries, rfl, entry, listed, same.symm⟩
      · exact Or.inr ⟨part, List.mem_flatMap.mpr ⟨entry, listed, place⟩, further⟩
    | _ => exact Or.inr ⟨child, below, rest⟩

end Layer

namespace Converter

variable (converter : Converter) (objects : Objects) (mode : Mode)

section Form

variable (nested : Mode → Value → Logged Tree)

/-- Neither the mode nor a policy claims a value, so that it becomes whatever comes next. -/
def Unclaimed (value : Value) : Prop :=
  ∀ otherwise : Unit → Logged Tree,
    (converter.byPolicy objects nested mode value otherwise).value = (otherwise ()).value

/-- A value is converted by the form of an inner one, which is the value itself or what it holds
behind wrappers and as present content. -/
inductive ComesTo : Value → Value → Prop where
  | wrapped {value content inner : Value} : value.wrapped? = some content →
      ComesTo content inner → ComesTo value inner
  | present {value content inner : Value} : value.wrapped? = none →
      value.optional? = some (some content) → converter.Unclaimed objects mode nested value →
      ComesTo content inner → ComesTo value inner
  | form {value : Value} : value.wrapped? = none → value.optional? = none →
      converter.Unclaimed objects mode nested value → ComesTo value value

/-- The layer of a value that is converted by its form, the keys of dictionaries being made by
`key`. -/
def formLayerBy (key : Value → Scalar) (value : Value) : Layer Request :=
  match value.mapping? with
  | some mapping =>
    if mapping.key.isDictionaryKey then
      .dictionary ((converter.kept mapping.entries).map fun entry =>
        (key entry.1, .value entry.2))
    else converter.mappingLayer mapping
  | none => converter.formLayer objects mode value

variable {converter objects mode nested}

theorem value_level_of_comesTo {value inner : Value}
    (comes : converter.ComesTo objects mode nested value inner) :
    (converter.level objects nested mode value).value =
      (converter.byForm objects nested mode inner).value := by
  induction comes with
  | wrapped holds _ induction => rw [level_eq, holds, induction]
  | present bare possible unclaimed _ induction =>
    rw [level_eq, bare]
    simp only [possible]
    rw [unclaimed, induction]
  | form bare certain unclaimed =>
    rw [level_eq, bare]
    simp only [certain]
    rw [unclaimed]

/-- What a value comes to is neither a wrapper nor optional, and nothing claims it. -/
theorem ComesTo.plain {value inner : Value}
    (comes : converter.ComesTo objects mode nested value inner) :
    inner.wrapped? = none ∧ inner.optional? = none ∧
      converter.Unclaimed objects mode nested inner := by
  induction comes with
  | wrapped _ _ induction => exact induction
  | present _ _ _ _ induction => exact induction
  | form bare certain unclaimed => exact ⟨bare, certain, unclaimed⟩

/-- At a depth a value becomes what its form does, the values inside being given to the limiter of
that depth. -/
theorem value_createAt_of_comesTo {depth : Nat} {value inner : Value}
    (comes : converter.ComesTo objects mode ((converter.limiterAt depth).nested objects)
      value inner) :
    (converter.createAt objects depth mode value).value =
      (converter.byForm objects ((converter.limiterAt depth).nested objects) mode inner).value := by
  rw [createAt, nested_eq_limiter]
  exact value_level_of_comesTo comes

theorem formLayerBy_keyScalar (value : Value) :
    converter.formLayerBy objects mode converter.keyScalar value =
      converter.formLayer objects mode value := by
  rw [formLayerBy]
  cases mapped : value.mapping? with
  | none => rfl
  | some mapping =>
    simp only [formLayer, mapped, mappingLayer]
    split <;> rfl

theorem children_formLayerBy (key : Value → Scalar) (value : Value) :
    (converter.formLayerBy objects mode key value).children =
      (converter.formLayer objects mode value).children := by
  rw [formLayerBy]
  cases mapped : value.mapping? with
  | none => rfl
  | some mapping =>
    simp only [formLayer, mapped, mappingLayer]
    split <;> simp [Layer.children]

/-- Converters that keep as many elements have the same layers, if they make the same keys. -/
theorem formLayerBy_congr {other : Converter} {key otherKey : Value → Scalar} {value : Value}
    (counts : converter.collectionCount = other.collectionCount)
    (keys : ∀ mapping, value.mapping? = some mapping → mapping.key.isDictionaryKey = true →
      ∀ entry ∈ converter.kept mapping.entries, key entry.1 = otherKey entry.1) :
    converter.formLayerBy objects mode key value =
      other.formLayerBy objects mode otherKey value := by
  rw [formLayerBy, formLayerBy]
  cases mapped : value.mapping? with
  | some mapping =>
    simp only [mappingLayer, ← kept_congr counts]
    split
    · rename_i keyed
      rw [List.map_congr_left fun entry listed => by rw [keys mapping mapped keyed entry listed]]
    · rfl
  | none => simp only [formLayer, mapped, kept_congr counts]

/-- Whatever the policies are, a value that is converted by its form becomes the layer of that form
with the places filled. -/
theorem value_byForm (value : Value) :
    (converter.byForm objects nested mode value).value =
      ((converter.formLayerBy objects mode
        (fun key => (converter.keyOf objects nested key).value) value).map
          fun request => (answerBy mode nested request).value).merged.tree := by
  unfold byForm formLayerBy
  cases mapped : value.mapping? with
  | some mapping =>
    simp only [ofMapping, mappingLayer]
    split
    · simp [Layer.map, Layer.merged, Layer.tree, Tree.dictionaryOf, answerBy, Function.comp_def]
    · simp [Layer.map, Layer.merged, Layer.tree, answerBy, Function.comp_def]
  | none =>
    unfold formLayer
    simp only [mapped]
    cases value.elements? with
    | some elements =>
      simp [Layer.map, Layer.merged, Layer.tree, answerBy, Function.comp_def]
    | none =>
      cases mode with
      | default => rfl
      | stringify => rfl
      | destructure =>
        cases value.members? with
        | none => rfl
        | some members =>
          simp only [ofMembers_eq_run objects nested value members]
          exact Layer.value_run _ _

theorem unclaimed_iff (free : converter.PolicyFree) (value : Value) :
    converter.Unclaimed objects mode nested value ↔ converter.claim? mode value = none := by
  constructor
  · intro unclaimed
    cases claimed : converter.claim? mode value with
    | none => rfl
    | some scalar =>
      -- What comes next may be a sequence, which a claimed value never is.
      have taken := unclaimed fun _ => pure (.sequence [])
      rw [byPolicy_eq free, claimed] at taken
      exact absurd taken Tree.noConfusion
  · intro unclaimed otherwise
    rw [byPolicy_eq free, unclaimed]

theorem comesTo_iff (free : converter.PolicyFree) {value inner : Value} :
    converter.ComesTo objects mode nested value inner ↔
      converter.settle mode value = .form inner := by
  constructor
  · intro comes
    induction comes with
    | wrapped holds _ induction =>
      rw [settle_eq]
      simp only [holds]
      exact induction
    | present bare possible unclaimed _ induction =>
      rw [settle_eq, (unclaimed_iff free _).mp unclaimed]
      simp only [bare, possible]
      exact induction
    | form bare certain unclaimed =>
      rw [settle_eq, (unclaimed_iff free _).mp unclaimed]
      simp only [bare, certain]
      rfl
  · intro settled
    induction value using Value.content_induction with
    | step value wrapped present =>
      rw [settle_eq] at settled
      cases holds : value.wrapped? with
      | some content =>
        simp only [holds] at settled
        exact .wrapped holds (wrapped content holds settled)
      | none =>
        simp only [holds] at settled
        cases claimed : converter.claim? mode value with
        | some scalar => simp [Settled.unlessClaimed, claimed] at settled
        | none =>
          have unclaimed : converter.Unclaimed objects mode nested value :=
            (unclaimed_iff free value).mpr claimed
          simp only [Settled.unlessClaimed, claimed] at settled
          rcases possible : value.optional? with _ | _ | content
          · obtain rfl : value = inner := by simpa [possible] using settled
            exact .form holds possible unclaimed
          · simp [claim?, possible] at claimed
          · simp only [possible] at settled
            exact .present holds possible unclaimed (present content possible settled)

end Form

/-- The key of a dictionary at a level, when some levels are left below it. -/
def keyAt (levels : Nat) (key : Value) : Scalar :=
  (converter.keyOf objects (converter.nested objects levels) key).value

/-- A request is answered in a place of what another one is answered with. Both come with the number
of levels that may be taken apart there. -/
inductive Placed : (levels : Nat) → Request → (left : Nat) → Request → Prop where
  /-- In the place of the root. -/
  | root (levels : Nat) (request : Request) : Placed levels request levels request
  /-- In a place of what fills a kept place of a value's form. -/
  | inside {levels left : Nat} {value inner : Value} {child request : Request} :
      converter.ComesTo objects mode (converter.nested objects levels) value inner →
      child ∈ (converter.formLayerBy objects mode (converter.keyAt objects levels)
        inner).merged.children →
      Placed levels child left request → Placed (levels + 1) (.value value) left request

variable {converter objects mode}

theorem value_nested_of_comesTo {levels : Nat} {value inner : Value}
    (comes : converter.ComesTo objects mode (converter.nested objects levels) value inner) :
    (converter.nested objects (levels + 1) mode value).value =
      ((converter.formLayerBy objects mode (converter.keyAt objects levels) inner).map
        fun request => (converter.answer objects mode levels request).value).merged.tree :=
  (value_level_of_comesTo comes).trans (value_byForm inner)

/-- What a request in a place is answered with stands in the tree. -/
theorem contains_of_placed {levels left : Nat} {outer inner : Request}
    (placed : converter.Placed objects mode levels outer left inner) :
    (converter.answer objects mode levels outer).value.Contains
      (converter.answer objects mode left inner).value := by
  induction placed with
  | root levels request => exact .refl _
  | inside comes found _ induction =>
    refine Relation.ReflTransGen.trans ?_ induction
    rw [answer, answerBy, value_nested_of_comesTo comes]
    refine Layer.contains_tree ?_
    rw [Layer.merged_map, Layer.children_map]
    exact List.mem_map_of_mem found

variable (converter objects mode) in
/-- A tree is the pair of an entry that is kept of a mapping whose keys are no dictionary keys. -/
inductive PairAt : (levels : Nat) → Request → Tree → Prop where
  /-- The key and the value are converted with a level less than the mapping. -/
  | entry {levels : Nat} {value inner : Value} {mapping : MappingView Value}
      {entry : Value × Value} : converter.settle mode value = .form inner →
      inner.mapping? = some mapping → mapping.key.isDictionaryKey = false →
      entry ∈ converter.kept mapping.entries →
      PairAt (levels + 1) (.value value)
        (.sequence [(converter.nested objects levels mode entry.1).value,
          (converter.nested objects levels mode entry.2).value])

theorem pairAt_of_layer {levels : Nat} {value : Value} {pairs : List (Tree × Tree)} {tree : Tree}
    (paired : ((converter.layer objects mode value).map fun request =>
      (converter.answer objects mode levels request).value).merged = .pairs pairs)
    (pair : ∃ entry ∈ pairs, tree = .sequence [entry.1, entry.2]) :
    converter.PairAt objects mode (levels + 1) (.value value) tree := by
  obtain ⟨entry, listed, rfl⟩ := pair
  cases settled : converter.settle mode value with
  | scalar scalar =>
    rw [layer_of_settle_scalar settled] at paired
    cases paired
  | form inner =>
    rw [layer_of_settle_form settled] at paired
    rcases @formLayer_cases converter objects mode inner with
      ⟨mapping, mapped, form⟩ | ⟨elements, -, form⟩ | ⟨members, -, form⟩ | form
    · rw [form, mappingLayer] at paired
      by_cases keyed : mapping.key.isDictionaryKey = true
      · rw [if_pos keyed] at paired
        cases paired
      · rw [if_neg keyed] at paired
        obtain rfl := Layer.pairs.inj paired
        obtain ⟨request, among, rfl⟩ := List.mem_map.mp listed
        obtain ⟨source, kept, rfl⟩ := List.mem_map.mp among
        exact .entry settled mapped (Bool.eq_false_iff.mpr keyed) kept
    all_goals
      rw [form] at paired
      cases paired

section Free

variable (free : converter.PolicyFree)

include free

theorem keyAt_eq (levels : Nat) : converter.keyAt objects levels = converter.keyScalar := by
  funext key
  rw [keyAt, keyOf_eq objects _ free.scalarPolicies]
  rfl

theorem Placed.of_settle {levels left : Nat} {value inner : Value} {child request : Request}
    (settled : converter.settle mode value = .form inner)
    (found : child ∈ (converter.formLayer objects mode inner).merged.children)
    (rest : converter.Placed objects mode levels child left request) :
    converter.Placed objects mode (levels + 1) (.value value) left request := by
  refine .inside ((comesTo_iff free).mpr settled) ?_ rest
  rwa [keyAt_eq free, formLayerBy_keyScalar]

/-- A value that comes down to a scalar leaves no places inside of its own. -/
theorem Placed.eq_root {levels left : Nat} {value : Value} {scalar : Scalar} {request : Request}
    (settled : converter.settle mode value = .scalar scalar)
    (placed : converter.Placed objects mode levels (.value value) left request) :
    left = levels ∧ request = .value value := by
  cases placed with
  | root => exact ⟨rfl, rfl⟩
  | inside comes _ _ =>
    rw [(comesTo_iff free).mp comes] at settled
    exact absurd settled Settled.noConfusion

/-- Whatever stands in the tree is what a request in some place is answered with, or the pair of an
entry there. -/
theorem exists_placed_of_contains {levels : Nat} {outer : Request} {tree : Tree}
    (contained : (converter.answer objects mode levels outer).value.Contains tree) :
    ∃ left inner, converter.Placed objects mode levels outer left inner ∧
      ((converter.answer objects mode left inner).value = tree ∨
        converter.PairAt objects mode left inner tree) := by
  induction levels generalizing outer with
  | zero =>
    refine ⟨0, outer, .root 0 outer, Or.inl ?_⟩
    cases outer <;> exact contained.eq_of_scalar
  | succ levels induction =>
    cases outer with
    | unreadable owner member message =>
      exact ⟨levels + 1, _, .root _ _, Or.inl contained.eq_of_scalar⟩
    | value content =>
      have filled : (converter.answer objects mode (levels + 1) (.value content)).value =
          ((converter.layer objects mode content).map fun request =>
            (converter.answer objects mode levels request).value).merged.tree := by
        rw [answer, answerBy, nested_succ_eq_run objects mode free, Layer.value_run]
      rw [filled] at contained
      rcases Layer.cases_of_contains contained with
        same | ⟨pairs, paired, pair⟩ | ⟨child, found, further⟩
      · exact ⟨levels + 1, _, .root _ _, Or.inl (filled.trans same)⟩
      · exact ⟨levels + 1, _, .root _ _, Or.inr (pairAt_of_layer paired pair)⟩
      · rw [Layer.merged_map, Layer.children_map] at found
        obtain ⟨request, place, rfl⟩ := List.mem_map.mp found
        obtain ⟨left, inner, placed, same⟩ := induction further
        refine ⟨left, inner, ?_, same⟩
        cases settled : converter.settle mode content with
        | scalar value =>
          rw [layer_of_settle_scalar settled] at place
          exact absurd place List.not_mem_nil
        | form taken =>
          rw [layer_of_settle_form settled] at place
          exact .of_settle free settled place placed

/-- Every scalar that stands in the tree is what a request in some place is answered with. -/
theorem exists_placed {levels : Nat} {outer : Request} {scalar : Scalar}
    (contained : (converter.answer objects mode levels outer).value.Contains (.scalar scalar)) :
    ∃ left inner, converter.Placed objects mode levels outer left inner ∧
      (converter.answer objects mode left inner).value = .scalar scalar := by
  obtain ⟨left, inner, placed, same | pair⟩ := exists_placed_of_contains free contained
  · exact ⟨left, inner, placed, same⟩
  · cases pair

end Free

end Converter

end LogTree
