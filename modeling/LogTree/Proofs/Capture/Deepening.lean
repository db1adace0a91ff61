import LogTree.Proofs.Capture.Outline

/-!
# Greater depths

Only the levels that are left are taken from the greatest depth of a converter; every layer is made
without it. A converter of a greater depth therefore builds the same layers down to the depth of the
other one, and nothing but them if the other one leaves nothing out.
-/

namespace LogTree

namespace Converter

/-- Two converters that differ in nothing but their greatest depths. -/
structure SameButDepth (shallow deep : Converter) : Prop where
  /-- Texts are cut to the same length. -/
  textLength : shallow.textLength = deep.textLength
  /-- As many elements of collections are kept. -/
  collectionCount : shallow.collectionCount = deep.collectionCount
  /-- The same types are registered. -/
  registered : shallow.registered = deep.registered
  /-- The same scalar policies were added. -/
  scalarPolicies : shallow.scalarPolicies = deep.scalarPolicies
  /-- The same destructuring policies were added. -/
  destructuringPolicies : shallow.destructuringPolicies = deep.destructuringPolicies

namespace SameButDepth

variable {shallow deep : Converter} (same : shallow.SameButDepth deep)

include same

theorem policyFree (free : shallow.PolicyFree) : deep.PolicyFree :=
  ⟨same.scalarPolicies ▸ free.scalarPolicies,
    same.destructuringPolicies ▸ free.destructuringPolicies⟩

theorem cut_eq : shallow.cut = deep.cut :=
  cut_congr same.textLength

theorem kept_eq {Item : Type} (items : List Item) : shallow.kept items = deep.kept items :=
  kept_congr same.collectionCount items

theorem scalarAround?_eq (value : Value) (content : Option Scalar) :
    shallow.scalarAround? value content = deep.scalarAround? value content := by
  rw [scalarAround?, scalarAround?, typedScalar?, typedScalar?, same.registered]

theorem ownScalar?_eq (value : Value) : shallow.ownScalar? value = deep.ownScalar? value := by
  induction value using Value.content_induction with
  | step value _ present =>
    have content : shallow.contentScalar? value = deep.contentScalar? value := by
      rw [contentScalar?, contentScalar?]
      rcases optional : value.optional? with _ | _ | content
      · rfl
      · rfl
      · exact present content optional
    rw [Converter.ownScalar?_eq, Converter.ownScalar?_eq, content, same.scalarAround?_eq]

theorem claim?_eq (mode : Mode) (value : Value) :
    shallow.claim? mode value = deep.claim? mode value := by
  have early := earlyText?_congr same.textLength value
  have present : shallow.presentClaim? value mode = deep.presentClaim? value mode := by
    cases mode with
    | default => exact same.ownScalar?_eq value
    | stringify => rw [presentClaim?, presentClaim?, same.cut_eq]
    | destructure => rw [presentClaim?, presentClaim?, early, same.ownScalar?_eq]
  rw [claim?, claim?, present]

theorem settle_eq (mode : Mode) (value : Value) :
    shallow.settle mode value = deep.settle mode value := by
  induction value using Value.content_induction with
  | step value wrapped present =>
    rw [Converter.settle_eq, Converter.settle_eq, same.claim?_eq]
    cases possible : value.wrapped? with
    | some content => exact wrapped content possible
    | none =>
      rcases optional : value.optional? with _ | _ | content
      · rfl
      · rfl
      · exact congrArg (Settled.unlessClaimed _) (present content optional)

theorem mappingLayer_eq (mapping : MappingView Value) :
    shallow.mappingLayer mapping = deep.mappingLayer mapping := by
  have keys : shallow.keyScalar = deep.keyScalar := by
    funext key
    rw [keyScalar, keyScalar, same.ownScalar?_eq]
  rw [mappingLayer, mappingLayer, same.kept_eq, keys]

theorem layer_eq (objects : Objects) (mode : Mode) (value : Value) :
    shallow.layer objects mode value = deep.layer objects mode value := by
  have forms : shallow.formLayer objects mode = deep.formLayer objects mode := by
    funext inner
    simp only [formLayer, same.mappingLayer_eq, same.kept_eq]
  rw [layer, layer, same.settle_eq, forms]

end SameButDepth

end Converter

namespace Outline

/-- The tree of an outline with a placeholder for whatever is below the first layers. -/
def cut (placeholder : Tree) : (layers : Nat) → {levels : Nat} → Outline levels → Tree
  | 0, _, _ => placeholder
  | _ + 1, 0, value => .scalar value
  | layers + 1, _ + 1, layer => (Layer.map (cut placeholder layers) layer).tree

@[simp]
theorem cut_ofLayer {levels : Nat} (placeholder : Tree) (layers : Nat)
    (layer : Layer (Outline levels)) :
    (ofLayer layer).cut placeholder (layers + 1) = (layer.map (cut placeholder layers)).tree :=
  rfl

end Outline

namespace Converter

section Deeper

variable {shallow deep : Converter} (same : shallow.SameButDepth deep)
  (objects : Objects) (mode : Mode)

include same

/-- As many layers as both have levels for are the same. -/
theorem cut_outlineWithin (placeholder : Tree) {layers few many : Nat} (short : layers ≤ few)
    (long : layers ≤ many) (request : Request) :
    (shallow.outlineWithin objects mode few request).cut placeholder layers =
      (deep.outlineWithin objects mode many request).cut placeholder layers := by
  induction layers generalizing few many request with
  | zero => rfl
  | succ layers induction =>
    obtain ⟨few, rfl⟩ := Nat.exists_eq_add_of_lt short
    obtain ⟨many, rfl⟩ := Nat.exists_eq_add_of_lt long
    cases request with
    | unreadable owner member message => rfl
    | value content =>
      have below := funext fun request =>
        induction (Nat.le_add_right layers few) (Nat.le_add_right layers many) request
      rw [outlineWithin, outlineWithin, Outline.cut_ofLayer, Outline.cut_ofLayer,
        ← Layer.merged_map, ← Layer.merged_map, Layer.map_map, Layer.map_map, below,
        same.layer_eq]

/-- What is converted without leaving anything out is converted alike with more levels. -/
theorem answer_eq_of_complete (free : shallow.PolicyFree) {few many : Nat} (more : few ≤ many)
    (request : Request)
    (complete : ∀ maximum typeName,
      .depthReached maximum typeName ∉ (shallow.answer objects mode few request).notices) :
    shallow.answer objects mode few request = deep.answer objects mode many request := by
  induction few generalizing many request with
  | zero =>
    cases request with
    | unreadable owner member message => rw [answer, answer, answerBy, answerBy]
    | value content =>
      have said : Notice.depthReached shallow.depth content.typeName ∈
          (shallow.flattened shallow.depth content).notices := by
        simp [flattened, Logged.note]
      exact absurd said (complete shallow.depth content.typeName)
  | succ few induction =>
    obtain ⟨many, rfl⟩ := Nat.exists_eq_add_of_lt more
    cases request with
    | unreadable owner member message => rw [answer, answer, answerBy, answerBy]
    | value content =>
      rw [answer, answer, answerBy, answerBy, nested_succ_eq_run objects mode free,
        nested_succ_eq_run objects mode (same.policyFree free), ← same.layer_eq]
      rw [answer, answerBy, nested_succ_eq_run objects mode free] at complete
      refine Layer.run_congr fun child found => ?_
      exact induction (Nat.le_add_right few many) child fun maximum typeName said =>
        complete maximum typeName (Layer.mem_notices_run found said)

/-- A converter of a greater depth builds the same layers down to the depth of the other one, and
the same tree if the other one reaches its depth nowhere. -/
theorem convert_deepened (deeper : shallow.depth ≤ deep.depth) (free : shallow.PolicyFree)
    (placeholder : Tree) (value : Value) :
    (shallow.outline objects mode value).tree = (shallow.convert objects mode value).value ∧
    (deep.outline objects mode value).tree = (deep.convert objects mode value).value ∧
    (shallow.outline objects mode value).cut placeholder (shallow.depth + 1) =
      (deep.outline objects mode value).cut placeholder (shallow.depth + 1) ∧
    ((∀ maximum typeName,
        .depthReached maximum typeName ∉ (shallow.convert objects mode value).notices) →
      shallow.convert objects mode value = deep.convert objects mode value) := by
  have more : shallow.depth + 1 ≤ deep.depth + 1 := Nat.succ_le_succ deeper
  refine ⟨(value_convert objects mode free value).symm,
    (value_convert objects mode (same.policyFree free) value).symm, ?_, fun complete => ?_⟩
  · exact cut_outlineWithin same objects mode placeholder (Nat.le_refl _) more (.value value)
  · exact answer_eq_of_complete same objects mode free more (.value value) complete

end Deeper

theorem convert_deepened_ring :
    (ofLimits { depth := 1 } (by decide)).SameButDepth (ofLimits { depth := 3 } (by decide)) ∧
      (ofLimits { depth := 1 } (by decide)).depth ≤ (ofLimits { depth := 3 } (by decide)).depth ∧
        (ofLimits { depth := 1 } (by decide)).PolicyFree ∧
          ((ofLimits { depth := 1 } (by decide)).outline (fun _ => .ring) .destructure .ring).cut
              .null 2 =
            ((ofLimits { depth := 3 } (by decide)).outline (fun _ => .ring) .destructure .ring).cut
              .null 2 ∧
          (ofLimits { depth := 1 } (by decide)).convert (fun _ => .ring) .default .ring =
            (ofLimits { depth := 3 } (by decide)).convert (fun _ => .ring) .default .ring := by
  have same : (ofLimits { depth := 1 } (by decide)).SameButDepth
      (ofLimits { depth := 3 } (by decide)) := ⟨rfl, rfl, rfl, rfl, rfl⟩
  have deeper : (ofLimits { depth := 1 } (by decide)).depth ≤
      (ofLimits { depth := 3 } (by decide)).depth := by decide
  have free := policyFree_ofLimits { depth := 1 } (by decide)
  have destructured :=
    convert_deepened same (fun _ => .ring) .destructure deeper free .null .ring
  have plain := convert_deepened same (fun _ => .ring) .default deeper free .null .ring
  have complete : ((ofLimits { depth := 1 } (by decide)).convert (fun _ => .ring) .default
      .ring).notices = [] := by rfl
  refine ⟨same, deeper, free, destructured.2.2.1, plain.2.2.2 fun maximum typeName said => ?_⟩
  rw [complete] at said
  exact List.not_mem_nil said

end Converter

end LogTree
