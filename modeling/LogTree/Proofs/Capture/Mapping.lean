import LogTree.Proofs.Capture.Place
import LogTree.Proofs.Scalar.Sameness
import Mathlib.Data.List.Forall2

/-!
# Mappings

A mapping becomes a dictionary if the type of its keys is a well-known scalar type or says that it
is an enumerated type, and a sequence of pairs otherwise; types that were registered and policies
that were added make no difference. Keys of a well-known type are kept as they are, so no entry is
lost unless two keys count as one.
-/

namespace LogTree

theorem KeyType.isDictionaryKey_iff (key : KeyType) :
    key.isDictionaryKey = true ↔ (∃ type, key.type = .scalar type) ∨ key.isEnum = true := by
  rw [isDictionaryKey, Bool.or_eq_true, TypeRef.isScalar_iff, or_comm]

/-- Every key has the type that the mapping says its keys have, as in a mapping over keys of one
type. -/
def MappingView.Typed (mapping : MappingView Value) : Prop :=
  ∀ entry ∈ mapping.entries, entry.1.type = mapping.key.type

namespace Value

/-- Two keys count as one. -/
inductive SameKey : Value → Value → Prop where
  | refl (key : Value) : SameKey key key
  | atom {left right : Atom} : left.Same right → SameKey (.atom left) (.atom right)

/-- A scalar holds what a value of a well-known type holds, and nothing else. -/
inductive IsKeptAs : Value → Scalar → Prop where
  | unit : IsKeptAs .unit .null
  | atom (value : Atom) : IsKeptAs (.atom value) (.atom value)
  | text (holding : TextHolding) (content : String) :
      IsKeptAs (.text holding content) (.text content)

theorem IsKeptAs.builtIn?_eq {value : Value} {scalar : Scalar} (same : value.IsKeptAs scalar) :
    value.builtIn? = some scalar := by
  cases same with
  | unit => rfl
  | atom content => exact builtIn?_atom content
  | text holding content => exact builtIn?_text holding content

/-- The table of scalar types keeps what a value holds. -/
theorem isKeptAs_of_builtIn? {value : Value} {scalar : Scalar}
    (known : value.builtIn? = some scalar) : value.IsKeptAs scalar := by
  rw [Value.builtIn?_eq] at known
  cases value with
  | unit => exact Option.some.inj known ▸ .unit
  | atom content => exact Option.some.inj known ▸ .atom content
  | text holding content => exact Option.some.inj known ▸ .text holding content
  | _ => exact absurd known (Option.some_ne_none scalar).symm

/-- A scalar of a well-known type is the same as itself. -/
theorem IsKeptAs.lawful {value : Value} {scalar : Scalar} (same : value.IsKeptAs scalar) :
    scalar.Lawful := by
  cases same <;> exact fun _ => nofun

theorem exists_isKeptAs {value : Value} {type : ScalarType} (known : value.type = .scalar type) :
    ∃ scalar, value.IsKeptAs scalar := by
  have listed : value.type.isScalar := TypeRef.isScalar_iff.mpr ⟨type, known⟩
  obtain ⟨scalar, made⟩ := Option.isSome_iff_exists.mp (isSome_builtIn? listed)
  exact ⟨scalar, isKeptAs_of_builtIn? made⟩

/-- Keys of one type that are kept as the same scalar count as one. -/
theorem sameKey_of_beq {first second : Value} {left right : Scalar} (one : first.IsKeptAs left)
    (other : second.IsKeptAs right) (typed : first.type = second.type) (alike : left == right) :
    first.SameKey second := by
  cases one with
  | unit =>
    cases other with
    | unit => exact .refl .unit
    | _ => exact absurd alike Bool.false_ne_true
  | atom value =>
    cases other with
    | atom value => exact .atom (Atom.beq_iff_same.mp alike)
    | _ => exact absurd alike Bool.false_ne_true
  | text holding content =>
    cases other with
    | text otherHolding otherContent =>
      obtain rfl : holding = otherHolding := by simpa [type] using typed
      obtain rfl : content = otherContent := eq_of_beq alike
      exact .refl _
    | _ => exact absurd alike Bool.false_ne_true

end Value

namespace Converter

variable {converter : Converter} {objects : Objects} {mode : Mode}

theorem kept_sublist {Item : Type} (items : List Item) : (converter.kept items).Sublist items := by
  rw [kept]
  cases converter.collectionCount with
  | none => exact .refl items
  | some count => exact List.take_sublist count items

theorem length_kept {Item : Type} (items : List Item) :
    (converter.kept items).length =
      match converter.collectionCount with
      | none => items.length
      | some count => min count items.length := by
  rw [kept]
  cases converter.collectionCount with
  | none => rfl
  | some count => exact List.length_take

section Form

variable {nested : Mode → Value → Logged Tree} {mapping : MappingView Value}

theorem byForm_of_mapping? {value : Value} (mapped : value.mapping? = some mapping) :
    converter.byForm objects nested mode value =
      converter.ofMapping objects nested mode mapping := by
  unfold byForm
  rw [mapped]

theorem value_ofMapping_dictionary (keyed : mapping.key.isDictionaryKey = true) :
    (converter.ofMapping objects nested mode mapping).value =
      .dictionaryOf ((converter.kept mapping.entries).map fun entry =>
        ((converter.keyOf objects nested entry.1).value, (nested mode entry.2).value)) := by
  rw [ofMapping, if_pos keyed]
  simp

theorem value_ofMapping_pairs (unkeyed : mapping.key.isDictionaryKey ≠ true) :
    (converter.ofMapping objects nested mode mapping).value =
      .sequence ((converter.kept mapping.entries).map fun entry =>
        .sequence [(nested mode entry.1).value, (nested mode entry.2).value]) := by
  rw [ofMapping, if_neg unkeyed]
  simp

/-- A key of a well-known type is never kept as a text that stands for it. -/
theorem keyOf_of_isKeptAs {key : Value} {scalar : Scalar} (same : key.IsKeptAs scalar) :
    converter.keyOf objects nested key = pure scalar := by
  have claimed : (converter.factory objects nested).scalar key = pure (some scalar) :=
    converter.scalarOf_of_builtIn? same.builtIn?_eq objects _
  rw [keyOf, claimed, pure_bind]

theorem isKeptAs_keyOf {key : Value} {type : ScalarType} (known : key.type = .scalar type) :
    key.IsKeptAs (converter.keyOf objects nested key).value := by
  obtain ⟨scalar, same⟩ := Value.exists_isKeptAs known
  rwa [keyOf_of_isKeptAs same]

variable (converter objects nested) in
/-- The keys that different keys of a well-known type become are different. -/
theorem distinct_keys {type : ScalarType} (known : mapping.key.type = .scalar type)
    (typed : mapping.Typed)
    (apart : (mapping.entries.map (·.1)).Pairwise fun first second => ¬ first.SameKey second)
    (content : Value → Tree) :
    Entries.Distinct ((converter.kept mapping.entries).map fun entry =>
      ((converter.keyOf objects nested entry.1).value, content entry.2)) := by
  refine List.pairwise_map.mpr (((List.pairwise_map.mp apart).imp_of_mem ?_).sublist
    (kept_sublist mapping.entries))
  intro first second firstMember secondMember different
  have one := typed first firstMember
  have other := typed second secondMember
  refine Bool.eq_false_iff.mpr fun alike => different ?_
  exact Value.sameKey_of_beq (isKeptAs_keyOf (one.trans known)) (isKeptAs_keyOf (other.trans known))
    (one.trans other.symm) alike

end Form

section Depth

variable {depth : Nat} {value inner : Value} {mapping : MappingView Value}

/-- Whatever was registered or added, a mapping that is converted by its form becomes a dictionary
exactly if the type of its keys is a well-known scalar type or says that it is an enumerated type.
Otherwise it becomes a sequence with a pair for each entry that is kept, in order: the key and the
value, both converted one level deeper. -/
theorem createAt_mapping_classified
    (comes : converter.ComesTo objects mode ((converter.limiterAt depth).nested objects)
      value inner)
    (mapped : inner.mapping? = some mapping) :
    ((∃ entries, (converter.createAt objects depth mode value).value = .dictionary entries) ↔
      (∃ type, mapping.key.type = .scalar type) ∨ mapping.key.isEnum = true) ∧
    (¬ ((∃ type, mapping.key.type = .scalar type) ∨ mapping.key.isEnum = true) →
      (converter.createAt objects depth mode value).value =
        .sequence ((converter.kept mapping.entries).map fun entry => .sequence
          [((converter.limiterAt depth).nested objects mode entry.1).value,
            ((converter.limiterAt depth).nested objects mode entry.2).value])) := by
  rw [value_createAt_of_comesTo comes, byForm_of_mapping? mapped, ← KeyType.isDictionaryKey_iff]
  by_cases keyed : mapping.key.isDictionaryKey = true
  · rw [value_ofMapping_dictionary keyed]
    exact ⟨⟨fun _ => keyed, fun _ => ⟨_, rfl⟩⟩, fun unkeyed => absurd keyed unkeyed⟩
  · rw [value_ofMapping_pairs keyed]
    refine ⟨⟨?_, fun other => absurd other keyed⟩, fun _ => rfl⟩
    rintro ⟨entries, same⟩
    exact absurd same Tree.noConfusion

/-- A type is registered to be kept as it is, and a scalar policy was added. -/
def tokenKeeper : Converter where
  limits := {}
  valid := by decide
  registered := [.verbatim (.named "Token")]
  scalarPolicies := [fun _ _ => pure none]
  destructuringPolicies := []

/-- A value of the registered type. -/
def token : Value :=
  .object "Token"
    { typeName := "Token"
      text := "Token(9)"
      debug := "Token(9)"
      custom := some ⟨"Token", "9", "Token(9)", "Token(9)"⟩ }

/-- A mapping with a key of the registered type. -/
def tokenMap : Value :=
  .mapping "MultiMap" ⟨.named "Token", false⟩ [(token, .unit)]

/-- Keys of a registered type are scalars, but they key no dictionary. -/
theorem createAt_mapping_classified_token :
    tokenKeeper.ComesTo (fun _ => .unit) .default
        ((tokenKeeper.limiterAt 1).nested fun _ => .unit) tokenMap tokenMap ∧
      (tokenKeeper.createAt (fun _ => .unit) 1 .default tokenMap).value =
        .sequence
          [.sequence [.scalar (.custom ⟨"Token", "9", "Token(9)", "Token(9)"⟩), .null]] := by
  have comes : tokenKeeper.ComesTo (fun _ => .unit) .default
      ((tokenKeeper.limiterAt 1).nested fun _ => .unit) tokenMap tokenMap :=
    .form rfl rfl fun _ => rfl
  exact ⟨comes, (createAt_mapping_classified comes rfl).2 (by simp)⟩

/-- A mapping whose keys are of a well-known type and count as different loses none of the entries
that are kept: its dictionary has them all, in order, each under its key as it is, and what is found
under that key is the entry's value converted one level deeper. -/
theorem createAt_mapping_complete
    (comes : converter.ComesTo objects mode ((converter.limiterAt depth).nested objects)
      value inner)
    (mapped : inner.mapping? = some mapping) {type : ScalarType}
    (known : mapping.key.type = .scalar type) (typed : mapping.Typed)
    (apart : (mapping.entries.map (·.1)).Pairwise fun first second => ¬ first.SameKey second) :
    ∃ entries, (converter.createAt objects depth mode value).value = .dictionary entries ∧
      (entries.length =
        match converter.collectionCount with
        | none => mapping.entries.length
        | some count => min count mapping.entries.length) ∧
      List.Forall₂
        (fun source entry => source.1.IsKeptAs entry.1 ∧
          entry.2 = ((converter.limiterAt depth).nested objects mode source.2).value ∧
          (converter.createAt objects depth mode value).value.entry? entry.1 = some entry.2)
        (converter.kept mapping.entries) entries := by
  have keyed : mapping.key.isDictionaryKey = true :=
    mapping.key.isDictionaryKey_iff.mpr (Or.inl ⟨type, known⟩)
  have distinct := converter.distinct_keys objects ((converter.limiterAt depth).nested objects)
    known typed apart fun content => ((converter.limiterAt depth).nested objects mode content).value
  rw [value_createAt_of_comesTo comes, byForm_of_mapping? mapped,
    value_ofMapping_dictionary keyed, Tree.dictionaryOf, Entries.ofList_of_distinct distinct]
  have verbatim : ∀ source ∈ converter.kept mapping.entries, source.1.IsKeptAs
      (converter.keyOf objects ((converter.limiterAt depth).nested objects) source.1).value :=
    fun source member => isKeptAs_keyOf ((typed source (mem_of_mem_kept member)).trans known)
  refine ⟨_, rfl, ?_, ?_⟩
  · rw [List.length_map, length_kept]
  · refine List.forall₂_map_right_iff.mpr (List.forall₂_same.mpr fun source member => ?_)
    have key := verbatim source member
    exact ⟨key, rfl, Entries.find?_of_distinct distinct (List.mem_map_of_mem member)
      (Scalar.lawful_iff.mp key.lawful)⟩

/-- Two elements of a collection are kept, and all characters are registered to be nothing. -/
def pairKeeper : Converter where
  limits := { collectionCount := some 2 }
  valid := by decide
  registered := [.withConstructor (.scalar .char) fun _ => some .null]
  scalarPolicies := [fun _ _ => pure none]
  destructuringPolicies := []

/-- Three characters with values. -/
def letters : MappingView Value where
  key := ⟨.scalar .char, false⟩
  entries :=
    [(.atom (.char 'a'), .unit), (.atom (.char 'b'), token), (.atom (.char 'c'), .unit)]

/-- The mapping from these characters. -/
def letterMap : Value :=
  .mapping "BTreeMap" letters.key letters.entries

/-- The first two of three characters are kept, the registration being without effect. -/
theorem createAt_mapping_complete_letters :
    letters.Typed ∧
      (letters.entries.map (·.1)).Pairwise (fun first second => ¬ first.SameKey second) ∧
      ∃ entries, (pairKeeper.createAt (fun _ => .unit) 1 .destructure letterMap).value =
          .dictionary entries ∧
        entries.length = 2 := by
  have typed : letters.Typed := by
    simp [letters, MappingView.Typed, Value.type, Atom.type]
  have different {first second : Char} (other : first ≠ second) :
      ¬ (Value.atom (.char first)).SameKey (.atom (.char second)) := by
    intro same
    cases same with
    | refl => exact other rfl
    | atom same =>
      cases same with
      | refl => exact other rfl
  have apart : (letters.entries.map (·.1)).Pairwise
      (fun first second => ¬ first.SameKey second) := by
    simp [letters, different]
  have comes : pairKeeper.ComesTo (fun _ => .unit) .destructure
      ((pairKeeper.limiterAt 1).nested fun _ => .unit) letterMap letterMap :=
    .form rfl rfl fun _ => rfl
  obtain ⟨entries, kept, length, -⟩ := createAt_mapping_complete comes rfl rfl typed apart
  exact ⟨typed, apart, entries, kept, length⟩

end Depth

end Converter

end LogTree
