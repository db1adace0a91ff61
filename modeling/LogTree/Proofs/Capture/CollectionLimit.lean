import LogTree.Proofs.Capture.Place
import Mathlib.Data.List.Forall2

/-!
# The first items of collections

Where collections have a greatest number of items, only as many elements of a collection or entries
of a mapping are looked at. A sequence or a dictionary is made of exactly these, keys that are alike
being merged among them only, and whatever comes behind them can be changed or left out without a
trace in the tree or in the notices.
-/

namespace LogTree

/-- The mapping with no more than a number of entries, the first ones being left. -/
def MappingView.capped {V : Type} (count : Nat) (view : MappingView V) : MappingView V where
  key := view.key
  entries := view.entries.take count

namespace Value

/-- The value has elements or entries. -/
def HasItems (value : Value) : Prop :=
  value.mapping?.isSome ∨ value.elements?.isSome

/-- The value with no more than a number of elements and entries, the first ones being left. -/
def capped (count : Nat) : Value → Value
  | bytes holding content => bytes holding (content.take count)
  | collection fullName brackets elements => collection fullName brackets (elements.take count)
  | mapping fullName key entries => mapping fullName key (entries.take count)
  | object fullName exposure =>
    object fullName
      { exposure with
        elements := exposure.elements.map (List.take count)
        mapping := exposure.mapping.map (MappingView.capped count) }
  | other => other

variable (count : Nat) (value : Value)

theorem elements?_capped :
    (value.capped count).elements? = value.elements?.map (List.take count) := by
  cases value with
  | bytes holding content => cases holding <;> simp [capped, elements?, List.map_take]
  | _ => rfl

theorem mapping?_capped :
    (value.capped count).mapping? = value.mapping?.map (MappingView.capped count) := by
  cases value <;> rfl

end Value

/-- A tree is a sequence or a dictionary. -/
inductive Tree.IsCollection : Tree → Prop where
  | sequence (elements : List Tree) : IsCollection (.sequence elements)
  | dictionary (entries : List (Scalar × Tree)) : IsCollection (.dictionary entries)

/-- Two requests ask for alike values, or stand for the same failure. -/
inductive Request.Alike (alike : Value → Value → Prop) : Request → Request → Prop where
  | value {left right : Value} : alike left right → Alike alike (.value left) (.value right)
  | unreadable {left right : Value} (member message : String) :
      left.typeName = right.typeName →
      Alike alike (.unreadable left member message) (.unreadable right member message)

/-- Two values come down to the same scalar, or to forms that are alike. -/
inductive Settled.Alike (alike : Value → Value → Prop) : Settled → Settled → Prop where
  | scalar (value : Scalar) : Alike alike (.scalar value) (.scalar value)
  | form {left right : Value} : alike left right → Alike alike (.form left) (.form right)

namespace Converter

section First

variable (count : Nat) (key : Value → Scalar) (act : Value → Tree)

/-- The tree that is made of the first items of a value, up to a number of them. -/
inductive OfFirst : Value → Tree → Prop where
  /-- A sequence of what each of the first elements of a collection becomes. -/
  | elements {value : Value} {elements : List Value} : value.mapping? = none →
      value.elements? = some elements →
      OfFirst value (.sequence ((elements.take count).map act))
  /-- A sequence of a pair for each of the first entries of a mapping. -/
  | pairs {value : Value} {mapping : MappingView Value} : value.mapping? = some mapping →
      mapping.key.isDictionaryKey = false →
      OfFirst value (.sequence ((mapping.entries.take count).map fun entry =>
        .sequence [act entry.1, act entry.2]))
  /-- A dictionary into which each of the first entries of a mapping is written in order. -/
  | dictionary {value : Value} {mapping : MappingView Value} : value.mapping? = some mapping →
      mapping.key.isDictionaryKey = true →
      OfFirst value (.dictionaryOf ((mapping.entries.take count).map fun entry =>
        (key entry.1, act entry.2)))

end First

section Alike

variable (converter : Converter) (mode : Mode) (count : Nat) (objects others : Objects)

/-- Two members have the same name and are read alike, or cannot be read for the same reason. -/
structure AlikeMembers (alike : Value → Value → Prop) (left right : Value)
    (first second : Member Value) : Prop where
  /-- They have the same name. -/
  name : first.name = second.name
  /-- Both need arguments, or neither does. -/
  isIndexer : first.isIndexer = second.isIndexer
  /-- What is asked for in their places is alike. -/
  requestOf : Request.Alike alike (requestOf objects left first) (requestOf others right second)

/-- Two values have the same form, and what stands inside of them before the cut is alike. -/
inductive AlikeForms (alike : Value → Value → Prop) : Value → Value → Prop where
  /-- The first elements of collections are alike. -/
  | elements {left right : Value} {lefts rights : List Value} :
      left.mapping? = none → right.mapping? = none →
      left.elements? = some lefts → right.elements? = some rights →
      List.Forall₂ alike (lefts.take count) (rights.take count) →
      AlikeForms alike left right
  /-- The first entries of mappings that are kept as pairs are alike. -/
  | pairs {left right : Value} {first second : MappingView Value} :
      left.mapping? = some first → right.mapping? = some second →
      first.key.isDictionaryKey = false → second.key.isDictionaryKey = false →
      List.Forall₂ (fun one other => alike one.1 other.1 ∧ alike one.2 other.2)
        (first.entries.take count) (second.entries.take count) →
      AlikeForms alike left right
  /-- The first entries of mappings that become dictionaries have keys that become the same scalars
  and values that are alike. -/
  | dictionary {left right : Value} {first second : MappingView Value} :
      left.mapping? = some first → right.mapping? = some second →
      first.key.isDictionaryKey = true → second.key.isDictionaryKey = true →
      List.Forall₂
        (fun one other =>
          converter.keyScalar one.1 = converter.keyScalar other.1 ∧ alike one.2 other.2)
        (first.entries.take count) (second.entries.take count) →
      AlikeForms alike left right
  /-- All members of objects that are taken apart are alike. -/
  | members {left right : Value} {lefts rights : List (Member Value)} :
      ¬ left.HasItems → ¬ right.HasItems → mode = .destructure →
      left.typeName = right.typeName →
      left.members? = some lefts → right.members? = some rights →
      List.Forall₂ (AlikeMembers objects others alike left right) lefts rights →
      AlikeForms alike left right
  /-- Other values have the same text. -/
  | text {left right : Value} :
      ¬ left.HasItems → ¬ right.HasItems →
      (mode = .destructure → left.members? = none ∧ right.members? = none) →
      left.display = right.display →
      AlikeForms alike left right

/-- Two values look the same before the cut, with a number of levels that may be taken apart: the
first items of collections do at every level, and below the last level a value is seen as text. -/
def AlikeBefore : Nat → Value → Value → Prop
  | 0, left, right => left.typeName = right.typeName ∧ left.display = right.display
  | levels + 1, left, right =>
    Settled.Alike (AlikeForms converter mode count objects others (AlikeBefore levels))
      (converter.settle mode left) (converter.settle mode right)

variable {mode count objects}

section Same

variable {alike : Value → Value → Prop} (same : ∀ value, alike value value)

include same

/-- Values with the same first items are alike before the cut. -/
theorem AlikeForms.of_items {left right : Value} (items : left.HasItems)
    (mappings : left.mapping?.map (MappingView.capped count) =
      right.mapping?.map (MappingView.capped count))
    (elements : left.elements?.map (List.take count) = right.elements?.map (List.take count)) :
    AlikeForms converter mode count objects others alike left right := by
  cases mapped : left.mapping? with
  | some mapping =>
    rw [mapped, Option.map_some] at mappings
    obtain ⟨other, otherMapped, cut⟩ := Option.map_eq_some_iff.mp mappings.symm
    obtain ⟨keys, entries⟩ := MappingView.mk.inj cut
    cases keyed : mapping.key.isDictionaryKey with
    | false =>
      refine .pairs mapped otherMapped keyed (keys ▸ keyed) ?_
      rw [entries]
      exact List.forall₂_same.mpr fun entry _ => ⟨same entry.1, same entry.2⟩
    | true =>
      refine .dictionary mapped otherMapped keyed (keys ▸ keyed) ?_
      rw [entries]
      exact List.forall₂_same.mpr fun entry _ => ⟨rfl, same entry.2⟩
  | none =>
    obtain ⟨lefts, listed⟩ : ∃ lefts, left.elements? = some lefts := by
      simpa [Value.HasItems, mapped, Option.isSome_iff_exists] using items
    rw [mapped, Option.map_none] at mappings
    rw [listed, Option.map_some] at elements
    obtain ⟨rights, otherListed, first⟩ := Option.map_eq_some_iff.mp elements.symm
    refine .elements mapped (Option.map_eq_none_iff.mp mappings.symm) listed otherListed ?_
    rw [first]
    exact List.forall₂_same.mpr fun element _ => same element

theorem AlikeForms.capped {value : Value} (items : value.HasItems) :
    AlikeForms converter mode count objects others alike value (value.capped count) := by
  refine .of_items converter others same items ?_ ?_
  · rw [Value.mapping?_capped, Option.map_map]
    congr 1
    funext view
    simp [MappingView.capped, List.take_take]
  · rw [Value.elements?_capped, Option.map_map]
    congr 1
    funext elements
    simp [List.take_take]

theorem AlikeForms.refl (value : Value) :
    AlikeForms converter mode count objects objects alike value value := by
  by_cases items : value.HasItems
  · exact .of_items converter objects same items rfl rfl
  by_cases taken : mode = .destructure ∧ value.members?.isSome
  · obtain ⟨members, readable⟩ := Option.isSome_iff_exists.mp taken.2
    refine .members items items taken.1 rfl readable readable
      (List.forall₂_same.mpr fun member _ => ⟨rfl, rfl, ?_⟩)
    cases requestOf objects value member with
    | value content => exact .value (same content)
    | unreadable owner name message => exact .unreadable name message rfl
  · refine .text items items (fun destructured => ?_) rfl
    have unread : value.members? = none := by simpa [destructured] using taken
    exact ⟨unread, unread⟩

end Same

theorem AlikeBefore.refl (levels : Nat) (value : Value) :
    AlikeBefore converter mode count objects objects levels value value := by
  induction levels generalizing value with
  | zero => exact ⟨rfl, rfl⟩
  | succ levels induction =>
    rw [AlikeBefore]
    cases converter.settle mode value with
    | scalar scalar => exact .scalar scalar
    | form inner => exact .form (.refl converter induction inner)

/-- A value looks the same before the cut as one of which nothing but the first items are left. -/
theorem AlikeBefore.capped {value other inner : Value} (levels : Nat)
    (settled : converter.settle mode value = .form inner) (items : inner.HasItems)
    (cut : converter.settle mode other = .form (inner.capped count)) :
    AlikeBefore converter mode count objects objects (levels + 1) value other := by
  rw [AlikeBefore, settled, cut]
  exact .form (.capped converter objects (AlikeBefore.refl converter levels) items)

end Alike

section Level

variable {converter : Converter} {mode : Mode} {count : Nat} {objects others : Objects}
  {alike : Value → Value → Prop} {nested otherNested : Mode → Value → Logged Tree}

section Layer

variable (limited : converter.collectionCount = some count)

include limited

theorem kept_eq_take {Item : Type} (items : List Item) :
    converter.kept items = items.take count := by
  rw [kept, limited]

theorem formLayer_elements {value : Value} {elements : List Value} (bare : value.mapping? = none)
    (listed : value.elements? = some elements) :
    converter.formLayer objects mode value = .sequence ((elements.take count).map .value) := by
  simp only [formLayer, bare, listed, kept_eq_take limited]

theorem formLayer_pairs {value : Value} {mapping : MappingView Value}
    (mapped : value.mapping? = some mapping) (unkeyed : mapping.key.isDictionaryKey = false) :
    converter.formLayer objects mode value =
      .pairs ((mapping.entries.take count).map fun entry => (.value entry.1, .value entry.2)) := by
  simp only [formLayer, mapped, mappingLayer, unkeyed, kept_eq_take limited]
  exact if_neg Bool.false_ne_true

theorem formLayer_dictionary {value : Value} {mapping : MappingView Value}
    (mapped : value.mapping? = some mapping) (keyed : mapping.key.isDictionaryKey = true) :
    converter.formLayer objects mode value =
      .dictionary ((mapping.entries.take count).map fun entry =>
        (converter.keyScalar entry.1, .value entry.2)) := by
  simp only [formLayer, mapped, mappingLayer, keyed, kept_eq_take limited]
  exact if_pos trivial

end Layer

theorem map_eq_map_of_forall₂ {First Second Result : Type} {f : First → Result}
    {g : Second → Result} {lefts : List First} {rights : List Second}
    (agree : List.Forall₂ (fun left right => f left = g right) lefts rights) :
    lefts.map f = rights.map g := by
  rw [← List.forall₂_eq_eq_eq]
  exact List.forall₂_map_left_iff.mpr (List.forall₂_map_right_iff.mpr agree)

theorem lacks_of_not_hasItems {value : Value} (itemless : ¬ value.HasItems) :
    value.mapping? = none ∧ value.elements? = none := by
  simpa [Value.HasItems] using itemless

theorem formLayer_record {value : Value} {members : List (Member Value)}
    (itemless : ¬ value.HasItems) (readable : value.members? = some members) :
    converter.formLayer objects .destructure value =
      .record (tagOf value.typeName) (members.map (slotOf objects value)) := by
  obtain ⟨bare, plain⟩ := lacks_of_not_hasItems itemless
  simp only [formLayer, bare, plain, readable]

theorem formLayer_text {value : Value} (itemless : ¬ value.HasItems)
    (closed : mode = .destructure → value.members? = none) :
    converter.formLayer objects mode value = .scalar (.text value.display) := by
  obtain ⟨bare, plain⟩ := lacks_of_not_hasItems itemless
  cases mode with
  | destructure => simp only [formLayer, bare, plain, closed rfl]
  | default => simp only [formLayer, bare, plain]
  | stringify => simp only [formLayer, bare, plain]

/-- Without items a value becomes a record or a text. -/
theorem formLayer_of_not_hasItems {value : Value} (itemless : ¬ value.HasItems) :
    (∃ tag slots, converter.formLayer objects mode value = .record tag slots) ∨
      converter.formLayer objects mode value = .scalar (.text value.display) := by
  by_cases taken : mode = .destructure ∧ value.members?.isSome
  · obtain ⟨rfl, read⟩ := taken
    obtain ⟨members, readable⟩ := Option.isSome_iff_exists.mp read
    exact Or.inl ⟨_, _, formLayer_record itemless readable⟩
  · refine Or.inr (formLayer_text itemless fun destructured => ?_)
    simpa [destructured] using taken

section Below

variable (below : ∀ left right, alike left right → nested mode left = otherNested mode right)

include below

theorem answerBy_of_alike {first second : Request} (requests : first.Alike alike second) :
    answerBy mode nested first = answerBy mode otherNested second := by
  cases requests with
  | value contents => exact below _ _ contents
  | unreadable member message typeNames =>
    rw [answerBy, answerBy, unreadable, unreadable, typeNames]

theorem map_slotOf_of_alike {left right : Value} (typeNames : left.typeName = right.typeName)
    {first second : Member Value}
    (members : AlikeMembers objects others alike left right first second) :
    (slotOf objects left first).map (answerBy mode nested) =
      (slotOf others right second).map (answerBy mode otherNested) := by
  have requests := answerBy_of_alike below members.requestOf
  rw [slotOf, slotOf, members.name, members.isIndexer, typeNames]
  split
  · rfl
  · split
    · rfl
    · rw [Slot.map, Slot.map, requests]

variable (limited : converter.collectionCount = some count)

include limited

/-- Forms that are alike before the cut give the same layer, its places being filled. -/
theorem map_formLayer_of_alike {left right : Value}
    (forms : AlikeForms converter mode count objects others alike left right) :
    (converter.formLayer objects mode left).map (answerBy mode nested) =
      (converter.formLayer others mode right).map (answerBy mode otherNested) := by
  cases forms with
  | elements bare otherBare listed otherListed first =>
    rw [formLayer_elements limited bare listed, formLayer_elements limited otherBare otherListed,
      Layer.map, Layer.map, List.map_map, List.map_map]
    exact congrArg Layer.sequence (map_eq_map_of_forall₂ (first.imp below))
  | pairs mapped otherMapped unkeyed otherUnkeyed first =>
    rw [formLayer_pairs limited mapped unkeyed, formLayer_pairs limited otherMapped otherUnkeyed,
      Layer.map, Layer.map, List.map_map, List.map_map]
    exact congrArg Layer.pairs (map_eq_map_of_forall₂ (first.imp fun _ _ both =>
      Prod.ext (below _ _ both.1) (below _ _ both.2)))
  | dictionary mapped otherMapped keyed otherKeyed first =>
    rw [formLayer_dictionary limited mapped keyed,
      formLayer_dictionary limited otherMapped otherKeyed,
      Layer.map, Layer.map, List.map_map, List.map_map]
    exact congrArg Layer.dictionary (map_eq_map_of_forall₂ (first.imp fun _ _ both =>
      Prod.ext both.1 (below _ _ both.2)))
  | members itemless otherItemless taken typeNames readable otherReadable members =>
    subst taken
    rw [formLayer_record itemless readable, formLayer_record otherItemless otherReadable,
      typeNames, Layer.map, Layer.map, List.map_map, List.map_map]
    exact congrArg (Layer.record _) (map_eq_map_of_forall₂ (members.imp fun _ _ both =>
      map_slotOf_of_alike below typeNames both))
  | text itemless otherItemless closed texts =>
    rw [formLayer_text itemless fun taken => (closed taken).1,
      formLayer_text otherItemless fun taken => (closed taken).2, texts]
    rfl

end Below

variable (free : converter.PolicyFree) (limited : converter.collectionCount = some count)

include free limited

/-- What is converted by forms that are alike before the cut becomes the same, with the same
notices. -/
theorem byForm_of_alikeForms {left right : Value}
    (below : ∀ left right, alike left right → nested mode left = otherNested mode right)
    (forms : AlikeForms converter mode count objects others alike left right) :
    converter.byForm objects nested mode left = converter.byForm others otherNested mode right := by
  rw [byForm_eq_run objects mode free, byForm_eq_run others mode free, ← Layer.run_map,
    map_formLayer_of_alike below limited forms, Layer.run_map]

/-- Values that look the same before the cut become the same, with the same notices. -/
theorem nested_of_alikeBefore {levels : Nat} {left right : Value}
    (same : AlikeBefore converter mode count objects others levels left right) :
    converter.nested objects levels mode left = converter.nested others levels mode right := by
  induction levels generalizing left right with
  | zero =>
    obtain ⟨typeNames, texts⟩ := same
    rw [nested, nested, flattened, flattened, stringified, stringified, typeNames, texts]
  | succ levels induction =>
    rw [AlikeBefore] at same
    rw [Converter.nested, Converter.nested, level_eq_settle objects mode free,
      level_eq_settle others mode free]
    generalize converter.settle mode left = first at same ⊢
    generalize converter.settle mode right = second at same ⊢
    cases same with
    | scalar value => rfl
    | form forms => exact byForm_of_alikeForms free limited (fun _ _ => induction) forms

theorem ofFirst_of_settle {levels : Nat} {value inner : Value}
    (settled : converter.settle mode value = .form inner) (items : inner.HasItems) :
    OfFirst count converter.keyScalar
      (fun item => (converter.nested objects levels mode item).value) inner
      (converter.nested objects (levels + 1) mode value).value := by
  rw [nested_succ_eq_run objects mode free, Layer.value_run, layer_of_settle_form settled]
  cases mapped : inner.mapping? with
  | some mapping =>
    cases keyed : mapping.key.isDictionaryKey with
    | false =>
      rw [formLayer_pairs limited mapped keyed]
      simp only [Layer.map, Layer.merged, Layer.tree, List.map_map]
      exact .pairs mapped keyed
    | true =>
      rw [formLayer_dictionary limited mapped keyed, Layer.map, List.map_map]
      exact .dictionary mapped keyed
  | none =>
    obtain ⟨elements, listed⟩ : ∃ elements, inner.elements? = some elements := by
      simpa [Value.HasItems, mapped, Option.isSome_iff_exists] using items
    rw [formLayer_elements limited mapped listed, Layer.map, List.map_map]
    exact .elements mapped listed

omit limited in
/-- Sequences and dictionaries are made of values with items, with a level that is taken apart. -/
theorem exists_form_of_isCollection {levels : Nat} {request : Request}
    (collection : (converter.answer objects mode levels request).value.IsCollection) :
    ∃ left content inner, levels = left + 1 ∧ request = .value content ∧
      converter.settle mode content = .form inner ∧ inner.HasItems := by
  cases levels with
  | zero => cases request <;> cases collection
  | succ left =>
    cases request with
    | unreadable owner member message => cases collection
    | value content =>
      rw [answer, answerBy, nested_succ_eq_run objects mode free, Layer.value_run] at collection
      cases settled : converter.settle mode content with
      | scalar scalar =>
        rw [layer_of_settle_scalar settled] at collection
        cases collection
      | form inner =>
        refine ⟨left, content, inner, rfl, rfl, settled, ?_⟩
        by_contra itemless
        rw [layer_of_settle_form settled] at collection
        rcases @formLayer_of_not_hasItems converter mode objects inner itemless with
          ⟨tag, slots, form⟩ | form
        · rw [form] at collection
          cases collection
        · rw [form] at collection
          cases collection

end Level

/-- Where collections have a greatest number of items, every sequence or dictionary in a tree is
made of exactly the first elements or entries, up to that number, of the value in some place, or is
the pair of one of these entries. In any place a value with items becomes what its first items alone
become, with the same notices, and values that look the same before the cut at every level become
the same, with the same notices. -/
theorem first_items {converter : Converter} {count : Nat} (free : converter.PolicyFree)
    (limited : converter.collectionCount = some count) (objects : Objects) (mode : Mode)
    (value : Value) :
    (∀ tree, (converter.convert objects mode value).value.Contains tree → tree.IsCollection →
      ∃ left content inner,
        converter.Placed objects mode (converter.depth + 1) (.value value) (left + 1)
          (.value content) ∧
        converter.settle mode content = .form inner ∧
        ((converter.nested objects (left + 1) mode content).value = tree ∧
            OfFirst count converter.keyScalar
              (fun item => (converter.nested objects left mode item).value) inner tree ∨
          ∃ mapping entry, inner.mapping? = some mapping ∧
            mapping.key.isDictionaryKey = false ∧ entry ∈ mapping.entries.take count ∧
            tree = .sequence [(converter.nested objects left mode entry.1).value,
              (converter.nested objects left mode entry.2).value])) ∧
    (∀ levels content inner, converter.settle mode content = .form inner → inner.HasItems →
      OfFirst count converter.keyScalar
          (fun item => (converter.nested objects levels mode item).value) inner
          (converter.nested objects (levels + 1) mode content).value ∧
        converter.nested objects (levels + 1) mode content =
          converter.byForm objects (converter.nested objects levels) mode (inner.capped count)) ∧
    ∀ others other,
      AlikeBefore converter mode count objects others (converter.depth + 1) value other →
      converter.convert objects mode value = converter.convert others mode other := by
  refine ⟨fun tree contained collection => ?_,
    fun levels content inner settled items => ⟨?_, ?_⟩,
    fun others other alike => nested_of_alikeBefore free limited alike⟩
  · have stands :
        (converter.answer objects mode (converter.depth + 1) (.value value)).value.Contains tree :=
      contained
    obtain ⟨left, request, placed, same | pair⟩ := exists_placed_of_contains free stands
    · subst same
      obtain ⟨left, content, inner, rfl, rfl, settled, items⟩ :=
        exists_form_of_isCollection free collection
      exact ⟨left, content, inner, placed, settled,
        Or.inl ⟨rfl, ofFirst_of_settle free limited settled items⟩⟩
    · cases pair with
      | entry settled mapped unkeyed kept =>
        rw [kept_eq_take limited] at kept
        exact ⟨_, _, _, placed, settled, Or.inr ⟨_, _, mapped, unkeyed, kept, rfl⟩⟩
  · exact ofFirst_of_settle free limited settled items
  · rw [Converter.nested, level_eq_settle objects mode free, settled]
    have same (first second : Value) (eq : first = second) :
        converter.nested objects levels mode first = converter.nested objects levels mode second :=
      congrArg _ eq
    exact byForm_of_alikeForms free limited same (.capped converter objects (fun _ => rfl) items)

/-- A box whose label cannot be read. -/
def sealedBox : Value :=
  .object "Box"
    { typeName := "Box"
      text := "Box"
      debug := "Box"
      members := some [⟨"Label", .getter (.interrupted (.message "sealed"))⟩] }

/-- A list of boxes. -/
def boxes (contents : List Value) : Value :=
  .collection "Vec" .square contents

/-- Notes, each of which stands under a name. -/
def notes (entries : List (Value × Value)) : Value :=
  .mapping "Notes" ⟨.scalar (.text .owned), false⟩ entries

/-- A delivery of boxes with notes. -/
def delivery (contents : List Value) (entries : List (Value × Value)) : Value :=
  .collection "Vec" .square [boxes contents, notes entries]

/-- Two items of each collection are kept, and three levels are taken apart. -/
def twoOfEach : Converter :=
  ofLimits { depth := 3, collectionCount := some 2 } (by decide)

/-- A box that cannot be read comes third, and so does a note under a name that was used before.
Neither is seen: there is no notice, and the name keeps its first note. -/
theorem first_items_delivery :
    let text (content : String) := Value.text .owned content
    let contents := [.unit, .unit, sealedBox]
    let entries := [(text "a", text "1"), (text "b", text "2"), (text "a", text "3")]
    let kept := Tree.dictionary [(.text "a", .text "1"), (.text "b", .text "2")]
    let nested := twoOfEach.nested fun _ => .unit
    twoOfEach.PolicyFree ∧ twoOfEach.collectionCount = some 2 ∧
      twoOfEach.convert (fun _ => .unit) .destructure (delivery contents entries) =
        pure (.sequence [.sequence [.null, .null], kept]) ∧
      twoOfEach.convert (fun _ => .unit) .destructure (delivery contents entries) =
        twoOfEach.convert (fun _ => .unit) .destructure
          (delivery (contents.take 2) (entries.take 2)) ∧
      nested 2 .destructure (boxes contents) =
        twoOfEach.byForm (fun _ => .unit) (nested 1) .destructure (boxes (contents.take 2)) ∧
      ∃ left content inner,
        twoOfEach.Placed (fun _ => .unit) .destructure (twoOfEach.depth + 1)
          (.value (delivery contents entries)) (left + 1) (.value content) ∧
        OfFirst 2 twoOfEach.keyScalar (fun item => (nested left .destructure item).value) inner
          kept := by
  intro text contents entries kept nested
  have free : twoOfEach.PolicyFree := policyFree_ofLimits _ _
  obtain ⟨everywhere, anywhere, behind⟩ :=
    first_items free rfl (fun _ => .unit) .destructure (delivery contents entries)
  have captured : twoOfEach.convert (fun _ => .unit) .destructure (delivery contents entries) =
      pure (.sequence [.sequence [.null, .null], kept]) := rfl
  refine ⟨free, rfl, captured, ?_, ?_, ?_⟩
  · have depth : twoOfEach.depth = 2 + 1 := rfl
    have boxed : AlikeBefore twoOfEach .destructure 2 (fun _ => .unit) (fun _ => .unit)
        twoOfEach.depth (boxes contents) (boxes (contents.take 2)) := by
      rw [depth]
      exact .capped twoOfEach 2 rfl (Or.inr rfl) rfl
    have noted : AlikeBefore twoOfEach .destructure 2 (fun _ => .unit) (fun _ => .unit)
        twoOfEach.depth (notes entries) (notes (entries.take 2)) := by
      rw [depth]
      exact .capped twoOfEach 2 rfl (Or.inl rfl) rfl
    exact behind _ _ (.form (.elements rfl rfl rfl rfl (.cons boxed (.cons noted .nil))))
  · exact (anywhere 1 (boxes contents) (boxes contents) rfl (Or.inr rfl)).2
  · have stands : (twoOfEach.convert (fun _ => .unit) .destructure
        (delivery contents entries)).value.Contains kept := by
      rw [captured]
      exact .head (List.mem_cons_of_mem _ List.mem_cons_self) (.refl kept)
    obtain ⟨left, content, inner, placed, -, ⟨-, made⟩ | ⟨_, _, -, -, -, pair⟩⟩ :=
      everywhere kept stands (.dictionary _)
    · exact ⟨left, content, inner, placed, made⟩
    · exact absurd pair Tree.noConfusion

end Converter

end LogTree
