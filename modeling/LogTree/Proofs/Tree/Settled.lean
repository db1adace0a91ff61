import LogTree.Proofs.Entries
import LogTree.Proofs.Number.Widening
import LogTree.Proofs.Tree.Occurrence
import LogTree.Tree.Document

/-!
# Trees whose text is that of a JSON value

A JSON value knows no 32-bit numbers and names each member of an object once. The text of a tree's
JSON value is the text of another tree: the one with such numbers widened, and with the entries of
an object merged that are written under one key.
-/

namespace LogTree

namespace Scalar

/-- The scalar with a finite 32-bit number widened. -/
def settled : Scalar → Scalar
  | atom (.single bits) =>
    match singleDatum bits with
    | .finite negative magnitude => atom (.double (widenedBits negative magnitude))
    | _ => atom (.single bits)
  | other => other

/-- A finite 32-bit number becomes the 64-bit one of the same sign and value. -/
theorem settled_single {bits : UInt32} {negative : Bool} {magnitude : Dyadic}
    (finite : singleDatum bits = .finite negative magnitude) :
    ∃ wide number, (atom (.single bits)).settled = atom (.double wide) ∧
      doubleDatum wide = .finite negative number ∧ number.value = magnitude.value := by
  refine ⟨widenedBits negative magnitude, BinaryFormat.double.widened magnitude, ?_,
    doubleDatum_widenedBits finite, BinaryFormat.value_widened _ magnitude⟩
  simp only [settled, finite]

theorem settled_eq_self {value : Scalar}
    (plain : ∀ bits, value = atom (.single bits) → (singleDatum bits).isFinite = false) :
    value.settled = value := by
  unfold settled
  split
  next bits =>
    have infinite := plain bits rfl
    split
    next finite => simp [finite, FloatDatum.isFinite] at infinite
    next => rfl
  next => rfl

theorem isFinite_of_settled {value : Scalar} {bits : UInt32}
    (same : value.settled = atom (.single bits)) : (singleDatum bits).isFinite = false := by
  unfold settled at same
  split at same
  next other =>
    cases read : singleDatum other with
    | finite negative magnitude => simp [read] at same
    | notANumber =>
      obtain rfl : other = bits := by simpa [read] using same
      rw [read]
      rfl
    | infinite negative =>
      obtain rfl : other = bits := by simpa [read] using same
      rw [read]
      rfl
  next other => exact absurd same (other bits)

theorem document_settled (value : Scalar) : value.settled.document = value.document.settled := by
  cases value with
  | atom value =>
    cases value with
    | single bits =>
      cases finite : singleDatum bits with
      | finite negative magnitude =>
        simp only [settled, document, finite, doubleDatum_widenedBits finite, Json.settled]
      | notANumber => simp only [settled, document, finite, Json.settled]
      | infinite negative => simp only [settled, document, finite, Json.settled]
    | double bits =>
      rw [settled, document]
      · split <;> rfl
      · exact fun _ other => by cases other
    | integer value =>
      rw [settled, document, integerDocument]
      · split <;> rfl
      · exact fun _ other => by cases other
    | _ => rfl
  | _ => rfl

end Scalar

namespace Json

@[simp]
theorem settled_array (elements : List Json) :
    (array elements).settled = array (elements.map settled) := by
  rw [settled]
  congr 1
  induction elements with
  | nil => rfl
  | cons element elements induction => rw [settled.settledElements, induction, List.map_cons]

@[simp]
theorem settled_object (members : List (String × Json)) :
    (object members).settled =
      object (Entries.ofList (members.map fun member => (member.1, member.2.settled))) := by
  rw [settled]
  congr 2
  induction members with
  | nil => rfl
  | cons member members induction => rw [settled.settledMembers, induction, List.map_cons]

end Json

namespace Tree

@[simp]
theorem document_sequence (elements : List Tree) :
    (sequence elements).document = .array (elements.map document) := by
  rw [document]
  congr 1
  induction elements with
  | nil => rfl
  | cons element elements induction => rw [document.documentElements, induction, List.map_cons]

@[simp]
theorem document_dictionary (entries : List (Scalar × Tree)) :
    (dictionary entries).document =
      .object (entries.map fun entry => (entry.1.display, entry.2.document)) := by
  rw [document]
  congr 1
  induction entries with
  | nil => rfl
  | cons entry entries induction => rw [document.documentEntries, induction, List.map_cons]

@[simp]
theorem document_record (tag : Option String) (properties : List (String × Tree)) :
    (record tag properties).document = .object
      (tagMember tag ++ properties.map fun property => (property.1, property.2.document)) := by
  rw [document]
  congr 2
  induction properties with
  | nil => rfl
  | cons property properties induction =>
    rw [document.documentProperties, induction, List.map_cons]

/-- A record whose properties of one name are merged. A tag is written before the properties; with a
property of the name that it is written under, it becomes a property itself and is merged. -/
def settledRecord (tag : Option String) (properties : List (String × Tree)) : Tree :=
  match tag with
  | none => record none (Entries.merged id properties)
  | some name =>
    if tagName ∈ properties.map (·.1) then
      record none (Entries.merged id ((tagName, text name) :: properties))
    else record (some name) (Entries.merged id properties)

/-- The tree with every finite 32-bit number in the place of a value widened and with the entries of
each object merged that are written under one key. -/
def settled : Tree → Tree
  | scalar value => scalar value.settled
  | sequence elements => sequence (settledElements elements)
  | dictionary entries => dictionary (Entries.merged Scalar.display (settledEntries entries))
  | record tag properties => settledRecord tag (settledProperties properties)
where
  /-- Elements, settled. -/
  settledElements : List Tree → List Tree
    | [] => []
    | element :: elements => element.settled :: settledElements elements
  /-- The trees under keys, settled. -/
  settledEntries : List (Scalar × Tree) → List (Scalar × Tree)
    | [] => []
    | (key, value) :: entries => (key, value.settled) :: settledEntries entries
  /-- The trees under names, settled. -/
  settledProperties : List (String × Tree) → List (String × Tree)
    | [] => []
    | (name, value) :: properties => (name, value.settled) :: settledProperties properties
termination_by structural tree => tree

@[simp]
theorem settled_sequence (elements : List Tree) :
    (sequence elements).settled = sequence (elements.map settled) := by
  rw [settled]
  congr 1
  induction elements with
  | nil => rfl
  | cons element elements induction => rw [settled.settledElements, induction, List.map_cons]

@[simp]
theorem settled_dictionary (entries : List (Scalar × Tree)) :
    (dictionary entries).settled = dictionary
      (Entries.merged Scalar.display (entries.map fun entry => (entry.1, entry.2.settled))) := by
  rw [settled]
  congr 2
  induction entries with
  | nil => rfl
  | cons entry entries induction => rw [settled.settledEntries, induction, List.map_cons]

@[simp]
theorem settled_record (tag : Option String) (properties : List (String × Tree)) :
    (record tag properties).settled =
      settledRecord tag (properties.map fun property => (property.1, property.2.settled)) := by
  rw [settled]
  congr 1
  induction properties with
  | nil => rfl
  | cons property properties induction =>
    rw [settled.settledProperties, induction, List.map_cons]

/-- The document of a merged record has the members that writing the tag and the properties in order
leaves. -/
theorem document_settledRecord (tag : Option String) (properties : List (String × Tree)) :
    (settledRecord tag properties).document = .object (Entries.ofList
      (tagMember tag ++ properties.map fun property => (property.1, property.2.document))) := by
  have written (members : List (String × Tree)) :=
    Entries.ofList_map_written id document members
  simp only [id_eq] at written
  cases tag with
  | none =>
    rw [settledRecord, document_record, tagMember, List.nil_append, List.nil_append, written]
  | some name =>
    have tagged := written ((tagName, text name) :: properties)
    rw [settledRecord]
    split
    next taken =>
      rw [document_record]
      exact congrArg Json.object tagged.symm
    next free =>
      rw [Entries.merged_cons_of_not_mem id free] at tagged
      rw [document_record]
      exact congrArg Json.object tagged.symm

theorem document_settled (tree : Tree) : tree.settled.document = tree.document.settled := by
  induction tree using children_induction with
  | step tree induction =>
    cases tree with
    | scalar value => exact value.document_settled
    | sequence elements =>
      rw [settled_sequence, document_sequence, document_sequence, Json.settled_array, List.map_map,
        List.map_map]
      exact congrArg Json.array (List.map_congr_left induction)
    | dictionary entries =>
      rw [settled_dictionary, document_dictionary, document_dictionary, Json.settled_object,
        ← Entries.ofList_map_written, List.map_map, List.map_map]
      have members := Entries.map_congr_values Scalar.display induction
      exact congrArg (fun members => Json.object (Entries.ofList members)) members
    | record tag properties =>
      rw [settled_record, document_settledRecord, document_record, Json.settled_object,
        List.map_append, List.map_map, List.map_map]
      have members := Entries.map_congr_values id induction
      have tagged : (tagMember tag).map (fun member => (member.1, member.2.settled)) =
          tagMember tag := by
        cases tag <;> rfl
      rw [tagged]
      exact congrArg (fun members => Json.object (Entries.ofList (tagMember tag ++ members)))
        members

/-- The keys under which an object is written, the one of a tag included. -/
def writtenKeys : Tree → List String
  | dictionary entries => entries.map fun entry => entry.1.display
  | record tag properties => (tag.map fun _ => tagName).toList ++ properties.map (·.1)
  | _ => []

/-- Nothing in the tree is a finite 32-bit number, and no object in it writes a key twice. -/
def IsPlain (tree : Tree) : Prop :=
  ∀ inner, tree.Contains inner → inner.writtenKeys.Nodup ∧
    ∀ bits, inner = scalar (.atom (.single bits)) → (singleDatum bits).isFinite = false

theorem isPlain_iff {tree : Tree} :
    tree.IsPlain ↔ (tree.writtenKeys.Nodup ∧
      ∀ bits, tree = scalar (.atom (.single bits)) → (singleDatum bits).isFinite = false) ∧
      ∀ child ∈ tree.children, child.IsPlain := by
  constructor
  · intro plain
    exact ⟨plain tree (.refl tree), fun child below inner contained =>
      plain inner (.head below contained)⟩
  · rintro ⟨here, plain⟩ inner contained
    rcases contains_iff.mp contained with rfl | ⟨child, below, rest⟩
    · exact here
    · exact plain child below inner rest

theorem isPlain_scalar {value : Scalar}
    (plain : ∀ bits, value = .atom (.single bits) → (singleDatum bits).isFinite = false) :
    (scalar value).IsPlain :=
  isPlain_iff.mpr ⟨⟨List.nodup_nil, fun bits same => plain bits (scalar.inj same)⟩,
    fun _ => nofun⟩

theorem settledRecord_of_nodup {tag : Option String} {properties : List (String × Tree)}
    (distinct : (record tag properties).writtenKeys.Nodup) :
    settledRecord tag properties = record tag properties := by
  obtain ⟨-, names, apart⟩ := List.nodup_append.mp distinct
  have unmerged : Entries.merged id properties = properties :=
    Entries.merged_of_nodup id properties names
  cases tag with
  | none => rw [settledRecord, unmerged]
  | some name =>
    have free : tagName ∉ properties.map (·.1) :=
      fun taken => apart tagName (List.mem_singleton_self _) tagName taken rfl
    rw [settledRecord, if_neg free, unmerged]

theorem IsPlain.settled_eq {tree : Tree} (plain : tree.IsPlain) : tree.settled = tree := by
  induction tree using children_induction with
  | step tree induction =>
    obtain ⟨⟨distinct, infinite⟩, below⟩ := isPlain_iff.mp plain
    have unchanged : ∀ child ∈ tree.children, child.settled = child :=
      fun child among => induction child among (below child among)
    cases tree with
    | scalar value =>
      exact congrArg scalar (Scalar.settled_eq_self fun bits same => infinite bits (same ▸ rfl))
    | sequence elements =>
      rw [settled_sequence]
      exact congrArg sequence ((List.map_congr_left unchanged).trans (List.map_id' elements))
    | dictionary entries =>
      have same := (Entries.map_congr_values id unchanged).trans (List.map_id' entries)
      simp only [id_eq] at same
      rw [settled_dictionary, same, Entries.merged_of_nodup Scalar.display entries distinct]
    | record tag properties =>
      have same := (Entries.map_congr_values id unchanged).trans (List.map_id' properties)
      simp only [id_eq] at same
      rw [settled_record, same, settledRecord_of_nodup distinct]

theorem isPlain_settledRecord (tag : Option String) {properties : List (String × Tree)}
    (plain : ∀ property ∈ properties, property.2.IsPlain) :
    (settledRecord tag properties).IsPlain := by
  have merged (members : List (String × Tree)) (below : ∀ member ∈ members, member.2.IsPlain) :
      ∀ child ∈ (Entries.merged id members).map (·.2), child.IsPlain := by
    intro child among
    obtain ⟨member, listed, rfl⟩ := List.mem_map.mp (Entries.mem_merged id among)
    exact below member listed
  cases tag with
  | none =>
    exact isPlain_iff.mpr ⟨⟨Entries.nodup_merged id properties, fun bits => nofun⟩,
      merged properties plain⟩
  | some name =>
    have tagPlain : (text name).IsPlain := isPlain_scalar fun bits => nofun
    rw [settledRecord]
    split
    next taken =>
      exact isPlain_iff.mpr ⟨⟨Entries.nodup_merged id _, fun bits => nofun⟩,
        merged _ (List.forall_mem_cons.mpr ⟨tagPlain, plain⟩)⟩
    next free =>
      have distinct := Entries.nodup_merged id ((tagName, text name) :: properties)
      rw [Entries.merged_cons_of_not_mem id free] at distinct
      exact isPlain_iff.mpr ⟨⟨distinct, fun bits => nofun⟩, merged properties plain⟩

/-- The settled tree leaves nothing to be widened or merged. -/
theorem isPlain_settled (tree : Tree) : tree.settled.IsPlain := by
  induction tree using children_induction with
  | step tree induction =>
    cases tree with
    | scalar value => exact isPlain_scalar fun bits => Scalar.isFinite_of_settled
    | sequence elements =>
      rw [settled_sequence]
      refine isPlain_iff.mpr ⟨⟨List.nodup_nil, fun bits => nofun⟩, ?_⟩
      exact List.forall_mem_map.mpr induction
    | dictionary entries =>
      rw [settled_dictionary]
      refine isPlain_iff.mpr ⟨⟨Entries.nodup_merged Scalar.display _, fun bits => nofun⟩, ?_⟩
      intro child among
      obtain ⟨entry, listed, rfl⟩ := List.mem_map.mp (Entries.mem_merged Scalar.display among)
      obtain ⟨inner, place, rfl⟩ := List.mem_map.mp listed
      exact induction inner.2 (List.mem_map_of_mem place)
    | record tag properties =>
      rw [settled_record]
      exact isPlain_settledRecord tag (List.forall_mem_map.mpr fun property listed =>
        induction property.2 (List.mem_map_of_mem listed))

/-- The text of a tree's JSON value is the text of the settled tree, in which every finite 32-bit
number is the 64-bit one of the same sign and value, and nothing is left to be merged. So it is the
text of the tree itself if nothing in the tree is such a number and no object in it writes a key
twice. -/
theorem compact_jsonValue (tree : Tree) :
    (∀ bits negative magnitude, singleDatum bits = .finite negative magnitude →
      ∃ wide number,
        (scalar (.atom (.single bits))).settled = scalar (.atom (.double wide)) ∧
          doubleDatum wide = .finite negative number ∧ number.value = magnitude.value) ∧
      tree.settled.IsPlain ∧ tree.jsonValue.compact = tree.settled.jsonText ∧
      (tree.IsPlain → tree.jsonValue.compact = tree.jsonText) := by
  have settled_text : tree.jsonValue.compact = tree.settled.jsonText := by
    rw [jsonValue, jsonText, document_settled]
  refine ⟨?_, isPlain_settled tree, settled_text, fun plain => ?_⟩
  · intro bits negative magnitude finite
    obtain ⟨wide, number, widened, read, same⟩ := Scalar.settled_single finite
    exact ⟨wide, number, congrArg scalar widened, read, same⟩
  · rw [settled_text, plain.settled_eq]

/-- A tagged record with a number and a dictionary. -/
def order : Tree :=
  record (some "Order")
    [("id", scalar (.atom (.double 0))), ("lines", dictionary [(.text "a", null), (.null, null)])]

theorem compact_jsonValue_order :
    order.IsPlain ∧ order.jsonValue.compact = order.jsonText := by
  have nothing : null.IsPlain := isPlain_scalar (by simp)
  have number : (scalar (.atom (.double 0))).IsPlain := isPlain_scalar (by simp)
  have lines : (dictionary [(.text "a", null), (.null, null)]).IsPlain :=
    isPlain_iff.mpr ⟨⟨by decide, by simp⟩, by simp [children, nothing]⟩
  have plain : order.IsPlain :=
    isPlain_iff.mpr ⟨⟨by decide, by simp [order]⟩, by simp [order, children, number, lines]⟩
  exact ⟨plain, (compact_jsonValue order).2.2.2 plain⟩

example : (dictionary [(.text "true", text "one"), (.atom (.bool true), text "two")]).settled =
    dictionary [(.text "true", text "two")] := by
  cbv

end Tree

end LogTree
