import LogTree.Proofs.Capture.Claim
import LogTree.Proofs.Capture.Layer

/-!
# Levels as layers

At a level a value comes down to a scalar or to an inner value that is converted by its form.
Without added policies the level is therefore a layer that does not depend on how the values inside
are converted, filled with their trees.
-/

namespace LogTree

/-- What a value comes down to at a level. -/
inductive Settled where
  /-- A scalar. -/
  | scalar (value : Scalar)
  /-- A value that is converted by its form. -/
  | form (inner : Value)

/-- The scalar that is made of a value, or what it comes down to otherwise. -/
def Settled.unlessClaimed (claim : Option Scalar) (otherwise : Settled) : Settled :=
  match claim with
  | some value => scalar value
  | none => otherwise

/-- What a level asks for in one of its places. -/
inductive Request where
  /-- The tree of a value. -/
  | value (content : Value)
  /-- What stands for a member that cannot be read. -/
  | unreadable (owner : Value) (member message : String)

/-- If a value is asked for, it has a property. -/
def Request.Satisfies (property : Value → Prop) (request : Request) : Prop :=
  ∀ content, request = .value content → property content

theorem Request.satisfies_value {property : Value → Prop} {content : Value}
    (holds : property content) : (Request.value content).Satisfies property :=
  fun _ same => Request.value.inj same ▸ holds

namespace Converter

variable (converter : Converter) (objects : Objects) (mode : Mode)

/-- What a value comes down to. Wrappers and present values that are not claimed come down to what
their content comes down to. -/
def settle : Value → Settled
  | .pointer _ content => settle content
  | .present content =>
    .unlessClaimed (converter.claim? mode (.present content)) (settle content)
  | .object fullName exposure =>
    match exposure with
    | { wrapped := some content, .. } => settle content
    | { wrapped := none, optional := some (some content), .. } =>
      .unlessClaimed (converter.claim? mode (.object fullName exposure)) (settle content)
    | _ =>
      .unlessClaimed (converter.claim? mode (.object fullName exposure))
        (.form (.object fullName exposure))
  | value => .unlessClaimed (converter.claim? mode value) (.form value)
termination_by structural value => value

/-- What is asked for in the place of a member. -/
def requestOf (owner : Value) (member : Member Value) : Request :=
  match member.read with
  | .value content => .value content
  | .link index => .value (objects index)
  | .failed error => .unreadable owner member.name error.message
  | .interrupted cause => .unreadable owner member.name cause.text

/-- What a member becomes in the record of its owner. -/
def slotOf (owner : Value) (member : Member Value) : Slot Request :=
  if member.isIndexer then .skipped (.indexerSkipped owner.typeName member.name)
  else if isBlank member.name then .skipped (.namelessSkipped owner.typeName)
  else .property member.name (requestOf objects owner member)

/-- The scalar that keys a dictionary. -/
def keyScalar (key : Value) : Scalar :=
  (converter.ownScalar? key).getD (.text key.display)

/-- The layer of a mapping: a dictionary, or pairs if its keys are no dictionary keys. -/
def mappingLayer (mapping : MappingView Value) : Layer Request :=
  if mapping.key.isDictionaryKey then
    .dictionary ((converter.kept mapping.entries).map fun entry =>
      (converter.keyScalar entry.1, .value entry.2))
  else
    .pairs ((converter.kept mapping.entries).map fun entry => (.value entry.1, .value entry.2))

/-- The layer of a value that is converted by its form. -/
def formLayer (value : Value) : Layer Request :=
  match value.mapping? with
  | some mapping => converter.mappingLayer mapping
  | none =>
    match value.elements? with
    | some elements => .sequence ((converter.kept elements).map .value)
    | none =>
      match mode, value.members? with
      | .destructure, some members =>
        .record (tagOf value.typeName) (members.map (slotOf objects value))
      | _, _ => .scalar (.text value.display)

/-- The layer of a value. -/
def layer (value : Value) : Layer Request :=
  match converter.settle mode value with
  | .scalar scalar => .scalar scalar
  | .form inner => converter.formLayer objects mode inner

/-- The text that stands for a member that cannot be read. -/
def unreadableText (message : String) : String :=
  "The property accessor threw an exception: " ++ message

/-- What is put into a place when the values inside are converted by `nested`. -/
def answerBy (nested : Mode → Value → Logged Tree) : Request → Logged Tree
  | .value content => nested mode content
  | .unreadable owner member message => unreadable owner member message

theorem settle_eq (value : Value) :
    converter.settle mode value =
      match value.wrapped? with
      | some content => converter.settle mode content
      | none =>
        .unlessClaimed (converter.claim? mode value)
          (match value.optional? with
            | some (some content) => converter.settle mode content
            | _ => .form value) := by
  cases value with
  | object fullName exposure =>
    obtain ⟨typeName, text, debug, wrapped, optional, constant, bytes, callable, descriptor,
      elements, mapping, members, custom, rank⟩ := exposure
    rcases wrapped with _ | content
    · rcases optional with _ | _ | content <;> simp only [settle, Value.wrapped?, Value.optional?]
    · simp only [settle, Value.wrapped?]
  | _ => simp only [settle, Value.wrapped?, Value.optional?]

theorem level_eq (nested : Mode → Value → Logged Tree) (value : Value) :
    converter.level objects nested mode value =
      match value.wrapped? with
      | some content => converter.level objects nested mode content
      | none =>
        converter.byPolicy objects nested mode value fun _ =>
          match value.optional? with
          | some (some content) => converter.level objects nested mode content
          | _ => converter.byForm objects nested mode value := by
  cases value with
  | object fullName exposure =>
    obtain ⟨typeName, text, debug, wrapped, optional, constant, bytes, callable, descriptor,
      elements, mapping, members, custom, rank⟩ := exposure
    rcases wrapped with _ | content
    · rcases optional with _ | _ | content <;> simp only [level, Value.wrapped?, Value.optional?]
    · simp only [level, Value.wrapped?]
  | _ => simp only [level, Value.wrapped?, Value.optional?]

section Answered

variable {converter} {objects mode}

/-- What the policies answer with a scalar is captured as that scalar, unless the mode claims it. -/
theorem level_of_scalar {nested : Mode → Value → Logged Tree} {value : Value} {scalar : Scalar}
    (bare : value.wrapped? = none) (there : value.optional? = none) (untouched : mode ≠ .stringify)
    (late : mode = .destructure → converter.earlyText? value = none)
    (found : (converter.factory objects nested).scalar value = pure (some scalar)) :
    converter.level objects nested mode value = pure (.scalar scalar) := by
  rw [level_eq]
  simp only [bare, byPolicy, there]
  cases mode with
  | default => rw [byScalar, found, pure_bind]
  | stringify => exact absurd rfl untouched
  | destructure =>
    simp only [late rfl]
    rw [byScalar, found, pure_bind]

end Answered

section Run

variable {converter} (free : converter.PolicyFree) (nested : Mode → Value → Logged Tree)

include free

theorem level_eq_settle (value : Value) :
    converter.level objects nested mode value =
      match converter.settle mode value with
      | .scalar scalar => pure (.scalar scalar)
      | .form inner => converter.byForm objects nested mode inner := by
  induction value using Value.content_induction with
  | step value wrapped present =>
    rw [level_eq, settle_eq]
    cases possible : value.wrapped? with
    | some content => exact wrapped content possible
    | none =>
      simp only [byPolicy_eq free]
      cases converter.claim? mode value with
      | some scalar => rfl
      | none =>
        cases optional : value.optional? with
        | none => rfl
        | some inner =>
          cases inner with
          | none => rfl
          | some content => exact present content optional

omit free in
theorem keyOf_eq (unasked : converter.scalarPolicies = []) (key : Value) :
    converter.keyOf objects nested key = pure (converter.keyScalar key) := by
  rw [keyOf, factory_scalar_eq objects nested unasked, pure_bind, keyScalar]
  cases converter.ownScalar? key <;> rfl

omit free in
theorem propertyOf_eq_run (owner : Value) (member : Member Value) :
    propertyOf objects nested owner member =
      (slotOf objects owner member).run (answerBy .destructure nested) := by
  rw [propertyOf, slotOf]
  split
  · rfl
  · split
    · rfl
    · rw [Slot.run, requestOf]
      cases member.read <;> rfl

omit free in
theorem ofMembers_eq_run (owner : Value) (members : List (Member Value)) :
    ofMembers objects nested owner members =
      (Layer.record (tagOf owner.typeName) (members.map (slotOf objects owner))).run
        (answerBy .destructure nested) := by
  have slots := funext (propertyOf_eq_run objects nested owner)
  rw [ofMembers, slots, Layer.run, Logged.traverse_map]

theorem ofMapping_eq_run (mapping : MappingView Value) :
    converter.ofMapping objects nested mode mapping =
      (converter.mappingLayer mapping).run (answerBy mode nested) := by
  rw [ofMapping, mappingLayer]
  split
  · simp only [Layer.run, Logged.traverse_map, keyOf_eq objects nested free.scalarPolicies,
      pure_bind]
    rfl
  · simp only [Layer.run, Logged.traverse_map]
    rfl

theorem byForm_eq_run (value : Value) :
    converter.byForm objects nested mode value =
      (converter.formLayer objects mode value).run (answerBy mode nested) := by
  unfold byForm formLayer
  cases value.mapping? with
  | some mapping => exact ofMapping_eq_run objects mode free nested mapping
  | none =>
    cases value.elements? with
    | some elements => rw [Layer.run, Logged.traverse_map]; rfl
    | none =>
      cases mode with
      | default => rfl
      | stringify => rfl
      | destructure =>
        cases value.members? with
        | none => rfl
        | some members => exact ofMembers_eq_run objects nested value members

/-- Without added policies a level is its layer with the places filled. -/
theorem level_eq_run (value : Value) :
    converter.level objects nested mode value =
      (converter.layer objects mode value).run (answerBy mode nested) := by
  rw [level_eq_settle objects mode free, layer]
  cases converter.settle mode value with
  | scalar scalar => rfl
  | form inner => exact byForm_eq_run objects mode free nested inner

end Run

section Contents

variable {converter} {objects mode}

theorem mem_of_mem_kept {Item : Type} {items : List Item} {item : Item}
    (found : item ∈ converter.kept items) : item ∈ items := by
  rw [kept] at found
  split at found
  · exact found
  · exact List.mem_of_mem_take found

theorem length_kept_le {Item : Type} {count : Nat}
    (limited : converter.collectionCount = some count) (items : List Item) :
    (converter.kept items).length ≤ count := by
  rw [kept, limited]
  exact List.length_take_le count items

theorem layer_of_settle_scalar {value : Value} {scalar : Scalar}
    (settled : converter.settle mode value = .scalar scalar) :
    converter.layer objects mode value = .scalar scalar := by
  rw [layer, settled]

theorem layer_of_settle_form {value inner : Value}
    (settled : converter.settle mode value = .form inner) :
    converter.layer objects mode value = converter.formLayer objects mode inner := by
  rw [layer, settled]

/-- Everything that a value converted by its form can become. -/
theorem formLayer_cases (value : Value) :
    (∃ mapping, value.mapping? = some mapping ∧
      converter.formLayer objects mode value = converter.mappingLayer mapping) ∨
    (∃ elements, value.elements? = some elements ∧
      converter.formLayer objects mode value = .sequence ((converter.kept elements).map .value)) ∨
    (∃ members, value.members? = some members ∧
      converter.formLayer objects mode value =
        .record (tagOf value.typeName) (members.map (slotOf objects value))) ∨
    converter.formLayer objects mode value = .scalar (.text value.display) := by
  unfold formLayer
  cases value.mapping? with
  | some mapping => exact Or.inl ⟨mapping, rfl, rfl⟩
  | none =>
    refine Or.inr ?_
    cases value.elements? with
    | some elements => exact Or.inl ⟨elements, rfl, rfl⟩
    | none =>
      refine Or.inr ?_
      cases mode with
      | default => exact Or.inr rfl
      | stringify => exact Or.inr rfl
      | destructure =>
        cases value.members? with
        | some members => exact Or.inl ⟨members, rfl, rfl⟩
        | none => exact Or.inr rfl

theorem holds_of_requestOf {owner content : Value} {members : List (Member Value)}
    {member : Member Value} (readable : owner.members? = some members) (listed : member ∈ members)
    (asked : requestOf objects owner member = .value content) :
    Value.Holds objects owner content := by
  rw [requestOf] at asked
  cases reading : member.read with
  | value other =>
    obtain rfl : other = content := by simpa [reading] using asked
    exact .member readable listed reading
  | link index =>
    obtain rfl : objects index = content := by simpa [reading] using asked
    exact .link readable listed reading
  | failed error => simp [reading] at asked
  | interrupted cause => simp [reading] at asked

theorem eq_of_property?_slotOf {owner : Value} {member : Member Value}
    {property : String × Request}
    (made : (slotOf objects owner member).property? = some property) :
    property = (member.name, requestOf objects owner member) := by
  rw [slotOf] at made
  split at made
  · simp [Slot.property?] at made
  · split at made
    · simp [Slot.property?] at made
    · exact (Option.some.inj made).symm

theorem holds_of_mem_mappingLayer {value content : Value} {mapping : MappingView Value}
    (mapped : value.mapping? = some mapping)
    (found : Request.value content ∈ (converter.mappingLayer mapping).children) :
    Value.Holds objects value content := by
  rw [mappingLayer] at found
  split at found
  · simp only [Layer.children, List.map_map, List.mem_map, Function.comp_apply] at found
    obtain ⟨entry, kept, same⟩ := found
    obtain rfl : entry.2 = content := by simpa using same
    exact .entry mapped (mem_of_mem_kept kept)
  · simp only [Layer.children, List.mem_flatMap, List.mem_map, List.mem_cons, List.not_mem_nil,
      or_false] at found
    obtain ⟨_, ⟨entry, kept, rfl⟩, same⟩ := found
    rcases same with same | same
    · obtain rfl : content = entry.1 := by simpa using same
      exact .key mapped (mem_of_mem_kept kept)
    · obtain rfl : content = entry.2 := by simpa using same
      exact .entry mapped (mem_of_mem_kept kept)

theorem holds_of_mem_formLayer {value content : Value}
    (found : Request.value content ∈ (converter.formLayer objects mode value).children) :
    Value.Holds objects value content := by
  rcases formLayer_cases value with
    ⟨mapping, mapped, form⟩ | ⟨elements, listed, form⟩ | ⟨members, readable, form⟩ | form
  · rw [form] at found
    exact holds_of_mem_mappingLayer mapped found
  · rw [form] at found
    obtain ⟨element, kept, same⟩ := List.mem_map.mp found
    obtain rfl : element = content := by simpa using same
    exact .element listed (mem_of_mem_kept kept)
  · rw [form] at found
    simp only [Layer.children, List.filterMap_map, List.mem_map, List.mem_filterMap,
      Function.comp_apply] at found
    obtain ⟨property, ⟨member, place, slot⟩, same⟩ := found
    rw [eq_of_property?_slotOf slot] at same
    exact holds_of_requestOf readable place same
  · rw [form] at found
    exact absurd found List.not_mem_nil

theorem reaches_of_settle {value inner : Value}
    (settled : converter.settle mode value = .form inner) : Value.Reaches objects value inner := by
  induction value using Value.content_induction with
  | step value wrapped present =>
    rw [settle_eq] at settled
    cases possible : value.wrapped? with
    | some content =>
      rw [possible] at settled
      exact .head (.wrapped possible) (wrapped content possible settled)
    | none =>
      rw [possible] at settled
      cases claimed : converter.claim? mode value with
      | some scalar => simp [Settled.unlessClaimed, claimed] at settled
      | none =>
        simp only [Settled.unlessClaimed, claimed] at settled
        cases optional : value.optional? with
        | none =>
          obtain rfl : value = inner := by simpa [optional] using settled
          exact .refl value
        | some held =>
          cases held with
          | none =>
            obtain rfl : value = inner := by simpa [optional] using settled
            exact .refl value
          | some content =>
            rw [optional] at settled
            exact .head (.present optional) (present content optional settled)

/-- A layer is a scalar, or that of the form of a value that can be reached. -/
theorem layer_cases (value : Value) :
    (∃ scalar, converter.layer objects mode value = .scalar scalar) ∨
      ∃ inner, Value.Reaches objects value inner ∧
        converter.layer objects mode value = converter.formLayer objects mode inner := by
  cases settled : converter.settle mode value with
  | scalar scalar => exact Or.inl ⟨scalar, layer_of_settle_scalar settled⟩
  | form inner => exact Or.inr ⟨inner, reaches_of_settle settled, layer_of_settle_form settled⟩

theorem reaches_of_mem_layer {value content : Value}
    (found : Request.value content ∈ (converter.layer objects mode value).children) :
    Value.Reaches objects value content := by
  rcases layer_cases value with ⟨scalar, layered⟩ | ⟨inner, reached, layered⟩
  · rw [layered] at found
    exact absurd found List.not_mem_nil
  · rw [layered] at found
    exact reached.tail (holds_of_mem_formLayer found)

/-- What holds of everything that can be reached holds of what a layer asks for. -/
theorem satisfies_of_mem_layer {property : Value → Prop} {value : Value}
    (everywhere : ∀ inner, Value.Reaches objects value inner → property inner) {place : Request}
    (inside : place ∈ (converter.layer objects mode value).children) :
    place.Satisfies property := by
  rintro content rfl
  exact everywhere content (reaches_of_mem_layer inside)

end Contents

end Converter

end LogTree
