import LogTree.Proofs.Entries
import LogTree.Proofs.Scalar.Sameness
import LogTree.Proofs.Tree.Occurrence
import LogTree.Value.TypeRef
import Mathlib.Data.List.Forall2

/-!
# Sameness of trees

Comparing trees is an equivalence of the trees whose scalars are the same as themselves and whose
dictionaries have each key once, as every dictionary has that is made of pairs. A dictionary is
compared by looking up each of its keys in the other one. This tells whether the entries of the one
can be arranged so that they match the entries of the other one by one.
-/

namespace LogTree

/-- The kinds of scalars; atoms of different types are of different kinds. -/
inductive ScalarKind where
  | null
  | atom (type : ScalarType)
  | text
  | constant
  | custom
deriving DecidableEq, Repr

namespace Scalar

/-- The kind of a scalar. -/
def kind : Scalar → ScalarKind
  | null => .null
  | atom value => .atom value.type
  | text _ => .text
  | constant _ => .constant
  | custom _ => .custom

theorem kind_eq_of_beq {left right : Scalar} (alike : left == right) : left.kind = right.kind := by
  cases beq_iff_same.mp alike with
  | null => rfl
  | atom same =>
    cases Atom.beq_iff_same.mp same with
    | refl => rfl
    | moment => rfl
    | path => rfl
  | text => rfl
  | constant => rfl
  | custom => rfl

end Scalar

namespace Entries

variable {Key Value : Type} [BEq Key]

theorem find?_congr [PartialEquivBEq Key] {key other : Key} (alike : key == other)
    (entries : List (Key × Value)) : find? key entries = find? other entries := by
  induction entries with
  | nil => rfl
  | cons entry entries induction =>
    have same : (entry.1 == key) = (entry.1 == other) := BEq.congr_right alike
    rw [find?, find?, same, induction]

/-- A key that is found stands in an entry that can be put before all others; every other key is
looked up among these. -/
theorem exists_perm_of_find? [PartialEquivBEq Key] {key : Key} {content : Value}
    {entries : List (Key × Value)} (found : find? key entries = some content) :
    ∃ own others, own == key ∧ ((own, content) :: others).Perm entries ∧
      ∀ other, (other == key) = false → find? other others = find? other entries := by
  induction entries with
  | nil => simp [find?] at found
  | cons entry entries induction =>
    by_cases here : entry.1 == key
    · obtain rfl : entry.2 = content := by simpa [find?, here] using found
      refine ⟨entry.1, entries, here, .refl _, fun other apart => ?_⟩
      have missed : (entry.1 == other) = false :=
        Bool.eq_false_iff.mpr fun same =>
          Bool.eq_false_iff.mp apart (BEq.trans (BEq.symm same) here)
      rw [find?, missed, if_neg Bool.false_ne_true]
    · have later : find? key entries = some content := by simpa [find?, here] using found
      obtain ⟨own, others, alike, arranged, kept⟩ := induction later
      refine ⟨own, entry :: others, alike, ?_, fun other apart => ?_⟩
      · exact (List.Perm.swap entry (own, content) others).trans (arranged.cons entry)
      · rw [find?, find?, kept other apart]

/-- Entries that are all found among as many others match these in some order. -/
theorem exists_arranged [PartialEquivBEq Key] (matching : Value → Value → Prop)
    {left right : List (Key × Value)} (distinct : Distinct left)
    (long : left.length = right.length)
    (found : ∀ entry ∈ left, ∃ other, find? entry.1 right = some other ∧ matching entry.2 other) :
    ∃ arranged, arranged.Perm right ∧
      List.Forall₂ (fun entry other => entry.1 == other.1 ∧ matching entry.2 other.2)
        left arranged := by
  induction left generalizing right with
  | nil =>
    obtain rfl : right = [] := List.length_eq_zero_iff.mp long.symm
    exact ⟨[], .refl _, .nil⟩
  | cons entry left induction =>
    obtain ⟨apart, distinct⟩ := List.pairwise_cons.mp distinct
    obtain ⟨other, first, matched⟩ := found entry List.mem_cons_self
    obtain ⟨own, others, alike, arranged, kept⟩ := exists_perm_of_find? first
    have shorter : left.length = others.length := by
      have same := arranged.length_eq
      simp only [List.length_cons] at same long
      omega
    have rest : ∀ later ∈ left, ∃ other, find? later.1 others = some other ∧
        matching later.2 other := by
      intro later among
      have different : (later.1 == entry.1) = false := BEq.symm_false (apart later among)
      rw [kept later.1 different]
      exact found later (List.mem_cons_of_mem entry among)
    obtain ⟨placed, permuted, paired⟩ := induction distinct shorter rest
    exact ⟨(own, other) :: placed, (permuted.cons _).trans arranged,
      .cons ⟨BEq.symm alike, matched⟩ paired⟩

/-- Entries that match others in some order are all found among these. -/
theorem exists_find?_of_arranged [PartialEquivBEq Key] (matching : Value → Value → Prop)
    {left right arranged : List (Key × Value)} (distinct : Distinct right)
    (permuted : arranged.Perm right)
    (paired : List.Forall₂ (fun entry other => entry.1 == other.1 ∧ matching entry.2 other.2)
      left arranged) :
    ∀ entry ∈ left, ∃ other, find? entry.1 right = some other ∧ matching entry.2 other := by
  have listed : ∀ other ∈ arranged, other.1 == other.1 → find? other.1 right = some other.2 :=
    fun other among => find?_of_distinct distinct (permuted.mem_iff.mp among)
  clear permuted
  induction paired with
  | nil => simp
  | @cons entry other left arranged first rest induction =>
    obtain ⟨here, later⟩ := List.forall_mem_cons.mp listed
    refine List.forall_mem_cons.mpr ⟨⟨other.2, ?_, first.2⟩, induction later⟩
    rw [find?_congr first.1, here (BEq.trans (BEq.symm first.1) first.1)]

end Entries

namespace Tree

/-- Two trees are of one shape, and what is directly below one of them is the same as what stands in
its place below the other. -/
inductive Matches : Tree → Tree → Prop where
  | scalar {left right : Scalar} : left == right → Matches (.scalar left) (.scalar right)
  | sequence {left right : List Tree} : List.Forall₂ (· == ·) left right →
      Matches (.sequence left) (.sequence right)
  | dictionary {left right : List (Scalar × Tree)} : left.length = right.length →
      (∀ entry ∈ left, ∃ other, Entries.find? entry.1 right = some other ∧ entry.2 == other) →
      Matches (.dictionary left) (.dictionary right)
  | record (tag : Option String) {left right : List (String × Tree)} :
      List.Forall₂ (fun property other => property.1 = other.1 ∧ property.2 == other.2) left right →
      Matches (.record tag left) (.record tag right)

theorem sameElements_iff {left right : List Tree} :
    same.sameElements left right ↔ List.Forall₂ (· == ·) left right := by
  induction left generalizing right with
  | nil => cases right <;> simp [same.sameElements]
  | cons tree left induction =>
    cases right with
    | nil => simp [same.sameElements]
    | cons other right =>
      rw [same.sameElements, Bool.and_eq_true, induction, List.forall₂_cons]
      exact Iff.rfl

theorem sameEntries_iff {left right : List (Scalar × Tree)} :
    same.sameEntries left right ↔
      ∀ entry ∈ left, ∃ other, Entries.find? entry.1 right = some other ∧ entry.2 == other := by
  induction left with
  | nil => simp [same.sameEntries]
  | cons entry left induction =>
    rw [same.sameEntries, Bool.and_eq_true, induction, List.forall_mem_cons]
    refine and_congr_left' ?_
    cases Entries.find? entry.1 right with
    | none => simp
    | some other =>
      simp only [Option.some.injEq, exists_eq_left']
      exact Iff.rfl

theorem sameProperties_iff {left right : List (String × Tree)} :
    same.sameProperties left right ↔
      List.Forall₂ (fun property other => property.1 = other.1 ∧ property.2 == other.2)
        left right := by
  induction left generalizing right with
  | nil => cases right <;> simp [same.sameProperties]
  | cons property left induction =>
    cases right with
    | nil => simp [same.sameProperties]
    | cons other right =>
      rw [same.sameProperties, Bool.and_eq_true, Bool.and_eq_true, induction, List.forall₂_cons,
        beq_iff_eq]
      exact Iff.rfl

theorem beq_iff_matches {left right : Tree} : left == right ↔ left.Matches right := by
  constructor
  · change same left right = true → _
    fun_cases same left right with
    | case1 left right => exact .scalar
    | case2 left right =>
      exact fun alike => .sequence (sameElements_iff.mp alike)
    | case3 left right =>
      rw [Bool.and_eq_true, beq_iff_eq]
      exact fun alike => .dictionary alike.1 (sameEntries_iff.mp alike.2)
    | case4 leftTag left rightTag right =>
      rw [Bool.and_eq_true, beq_iff_eq]
      rintro ⟨rfl, alike⟩
      exact .record _ (sameProperties_iff.mp alike)
    | case5 => exact nofun
  · change _ → same left right = true
    intro matched
    cases matched with
    | scalar alike => exact alike
    | sequence alike => exact sameElements_iff.mpr alike
    | dictionary long alike => simp [same, long, sameEntries_iff.mpr alike]
    | record tag alike => simp [same, sameProperties_iff.mpr alike]

/-- Each dictionary in a tree has each of its keys once. -/
def Proper : Tree → Prop :=
  Everywhere fun inner => ∀ entries, inner = dictionary entries → Entries.Distinct entries

theorem proper_scalar (value : Scalar) : (scalar value).Proper :=
  everywhere_scalar fun _ => nofun

theorem proper_sequence {elements : List Tree} (below : ∀ element ∈ elements, element.Proper) :
    (sequence elements).Proper :=
  everywhere_iff.mpr ⟨fun _ => nofun, below⟩

/-- The dictionary of any pairs of keys and proper trees is proper. -/
theorem proper_dictionaryOf {pairs : List (Scalar × Tree)} (below : ∀ pair ∈ pairs, pair.2.Proper) :
    (dictionaryOf pairs).Proper := by
  refine everywhere_iff.mpr ⟨fun entries same => ?_, fun child among => ?_⟩
  · rw [← dictionary.inj same]
    exact Entries.distinct_ofList pairs
  · obtain ⟨pair, listed, rfl⟩ := List.mem_map.mp (Entries.mem_ofList among)
    exact below pair listed

theorem proper_record (tag : Option String) {properties : List (String × Tree)}
    (below : ∀ property ∈ properties, property.2.Proper) : (record tag properties).Proper :=
  everywhere_iff.mpr ⟨fun _ => nofun, List.forall_mem_map.mpr below⟩

/-- Trees as they are built: the entries of a dictionary are what pairs of keys and trees leave when
they are written in order. -/
inductive Built : Tree → Prop where
  | scalar (value : Scalar) : Built (scalar value)
  | sequence {elements : List Tree} : (∀ element ∈ elements, Built element) →
      Built (sequence elements)
  | dictionary {pairs : List (Scalar × Tree)} : (∀ pair ∈ pairs, Built pair.2) →
      Built (dictionaryOf pairs)
  | record (tag : Option String) {properties : List (String × Tree)} :
      (∀ property ∈ properties, Built property.2) → Built (record tag properties)

theorem Built.proper {tree : Tree} (built : tree.Built) : tree.Proper := by
  induction built with
  | scalar value => exact proper_scalar value
  | sequence _ below => exact proper_sequence below
  | dictionary _ below => exact proper_dictionaryOf below
  | record tag _ below => exact proper_record tag below

/-- The scalar that a tree consists of, or the keys of a dictionary. -/
def ownScalars : Tree → List Scalar
  | scalar value => [value]
  | dictionary entries => entries.map (·.1)
  | _ => []

/-- All scalars in a tree, keys included, are the same as themselves. -/
def Lawful : Tree → Prop :=
  Everywhere fun inner => ∀ value ∈ inner.ownScalars, value.Lawful

theorem lawful_scalar {value : Scalar} (own : value.Lawful) : (scalar value).Lawful :=
  everywhere_scalar fun _ among => List.mem_singleton.mp among ▸ own

theorem Proper.beq_self {tree : Tree} (proper : tree.Proper) (lawful : tree.Lawful) :
    tree == tree := by
  induction tree using children_induction with
  | step tree induction =>
    obtain ⟨root, below⟩ := everywhere_iff.mp proper
    obtain ⟨scalars, further⟩ := everywhere_iff.mp lawful
    have own : ∀ child ∈ tree.children, child == child :=
      fun child among => induction child among (below child among) (further child among)
    refine beq_iff_matches.mpr ?_
    cases tree with
    | scalar value => exact .scalar (Scalar.lawful_iff.mp (scalars value List.mem_cons_self))
    | sequence elements => exact .sequence (List.forall₂_same.mpr own)
    | dictionary entries =>
      refine .dictionary rfl fun entry among => ?_
      have key := Scalar.lawful_iff.mp (scalars entry.1 (List.mem_map_of_mem among))
      have found := Entries.find?_of_distinct (root entries rfl) among key
      exact ⟨entry.2, found, own entry.2 (List.mem_map_of_mem among)⟩
    | record tag properties =>
      refine .record tag (List.forall₂_same.mpr fun property among => ?_)
      exact ⟨rfl, own property.2 (List.mem_map_of_mem among)⟩

theorem forall₂_symm {Item : Type} {related : Item → Item → Prop} {left right : List Item}
    (paired : List.Forall₂ related left right)
    (symm : ∀ item ∈ left, ∀ other, related item other → related other item) :
    List.Forall₂ related right left := by
  have both := (List.forall₂_and_left left right).mpr ⟨symm, paired⟩
  exact (both.imp fun item other facts => facts.1 other facts.2).flip

theorem forall₂_trans {Item : Type} {related : Item → Item → Prop} {left middle right : List Item}
    (first : List.Forall₂ related left middle) (second : List.Forall₂ related middle right)
    (trans : ∀ item ∈ left, ∀ other last, related item other → related other last →
      related item last) : List.Forall₂ related left right := by
  induction first generalizing right with
  | nil => exact second
  | cons here rest induction =>
    cases second with
    | cons there further =>
      obtain ⟨own, later⟩ := List.forall_mem_cons.mp trans
      exact .cons (own _ _ here there) (induction further later)

/-- The second tree of a comparison is compared with the first one alike. -/
theorem Proper.beq_symm {left right : Tree} (proper : left.Proper) (alike : left == right) :
    right == left := by
  induction left using children_induction generalizing right with
  | step left induction =>
    obtain ⟨root, below⟩ := everywhere_iff.mp proper
    have turned : ∀ child ∈ left.children, ∀ other, child == other → other == child :=
      fun child among other => induction child among (below child among)
    refine beq_iff_matches.mpr ?_
    cases beq_iff_matches.mp alike with
    | scalar same => exact .scalar (BEq.symm same)
    | sequence paired => exact .sequence (forall₂_symm paired turned)
    | @dictionary left right long found =>
      have distinct := root left rfl
      obtain ⟨arranged, permuted, paired⟩ := Entries.exists_arranged (· == ·) distinct long found
      have back := forall₂_symm paired fun entry among other facts =>
        ⟨BEq.symm facts.1, turned entry.2 (List.mem_map_of_mem among) other.2 facts.2⟩
      have listed := Entries.exists_find?_of_arranged (· == ·) distinct (.refl left) back
      exact .dictionary long.symm fun entry among => listed entry (permuted.mem_iff.mpr among)
    | record tag paired =>
      refine .record tag (forall₂_symm paired fun property among other facts => ?_)
      exact ⟨facts.1.symm, turned property.2 (List.mem_map_of_mem among) other.2 facts.2⟩

theorem beq_trans {left middle right : Tree} (first : left == middle) (second : middle == right) :
    left == right := by
  induction left using children_induction generalizing middle right with
  | step left induction =>
    have joined : ∀ child ∈ left.children, ∀ other last, child == other → other == last →
        child == last := fun child among other last => induction child among
    refine beq_iff_matches.mpr ?_
    cases beq_iff_matches.mp first with
    | scalar same =>
      cases beq_iff_matches.mp second with
      | scalar other => exact .scalar (BEq.trans same other)
    | sequence paired =>
      cases beq_iff_matches.mp second with
      | sequence further => exact .sequence (forall₂_trans paired further joined)
    | @dictionary left middle long found =>
      cases beq_iff_matches.mp second with
      | @dictionary middle right longer further =>
        refine .dictionary (long.trans longer) fun entry among => ?_
        obtain ⟨between, here, same⟩ := found entry among
        -- The key of the first dictionary need not be the one that the second dictionary has kept.
        obtain ⟨own, others, alike, arranged, -⟩ := Entries.exists_perm_of_find? here
        have listed : (own, between) ∈ middle := arranged.mem_iff.mp List.mem_cons_self
        obtain ⟨last, there, other⟩ := further (own, between) listed
        have met := (Entries.find?_congr alike right).symm.trans there
        exact ⟨last, met, joined entry.2 (List.mem_map_of_mem among) between last same other⟩
    | record tag paired =>
      cases beq_iff_matches.mp second with
      | record _ further =>
        refine .record tag (forall₂_trans paired further ?_)
        intro property among other last one two
        exact ⟨one.1.trans two.1,
          joined property.2 (List.mem_map_of_mem among) other.2 last.2 one.2 two.2⟩

/-- Dictionaries are the same exactly if the entries of the one can be arranged so that they match
those of the other one by one. -/
theorem beq_dictionary_iff {left right : List (Scalar × Tree)} (one : Entries.Distinct left)
    (other : Entries.Distinct right) :
    dictionary left == dictionary right ↔ ∃ arranged, arranged.Perm right ∧
      List.Forall₂ (fun entry other => entry.1 == other.1 ∧ entry.2 == other.2) left arranged := by
  constructor
  · intro alike
    cases beq_iff_matches.mp alike with
    | dictionary long found => exact Entries.exists_arranged (· == ·) one long found
  · rintro ⟨arranged, permuted, paired⟩
    have long := paired.length_eq.trans permuted.length_eq
    exact beq_iff_matches.mpr
      (.dictionary long (Entries.exists_find?_of_arranged (· == ·) other permuted paired))

/-- Comparing scalars is an equivalence that tells different kinds apart, if the values of
registered types are compared lawfully. Trees as they are built repeat no key in a dictionary, and
comparing trees that do not is an equivalence as well. Dictionaries without repeated keys are the
same exactly if they hold the same keys with the same trees, in any order. -/
theorem beq_equivalence :
    (Equivalence fun left right : { scalar : Scalar // scalar.Lawful } => left.val == right.val) ∧
    (∀ left right : Scalar, left == right → left.kind = right.kind) ∧
    (∀ tree : Tree, tree.Built → tree.Proper) ∧
    (Equivalence fun left right : { tree : Tree // tree.Proper ∧ tree.Lawful } =>
      left.val == right.val) ∧
    ∀ left right : List (Scalar × Tree), Entries.Distinct left → Entries.Distinct right →
      (dictionary left == dictionary right ↔ ∃ arranged, arranged.Perm right ∧
        List.Forall₂ (fun entry other => entry.1 == other.1 ∧ entry.2 == other.2)
          left arranged) := by
  have scalars : Equivalence fun left right : { scalar : Scalar // scalar.Lawful } =>
      left.val == right.val :=
    ⟨fun value => Scalar.lawful_iff.mp value.property, BEq.symm, BEq.trans⟩
  have trees : Equivalence fun left right : { tree : Tree // tree.Proper ∧ tree.Lawful } =>
      left.val == right.val :=
    ⟨fun tree => tree.property.1.beq_self tree.property.2,
      fun {left _} => left.property.1.beq_symm, beq_trans⟩
  exact ⟨scalars, fun _ _ => Scalar.kind_eq_of_beq, fun _ => Built.proper, trees,
    fun _ _ => beq_dictionary_iff⟩

/-- A moment under an offset, with a number that is none. -/
def clock (offset : Int) : List (Scalar × Tree) :=
  [(.atom (.offsetDateTime ⟨.ofTimestamp 0 0, offset⟩),
      scalar (.atom (.double 0x7ff8000000000001))),
    (.text "zone", null)]

theorem lawful_clock (offset : Int) : (dictionary (clock offset)).Lawful := by
  refine everywhere_iff.mpr ⟨fun value among => ?_, fun child among => ?_⟩
  · obtain rfl | rfl := List.mem_pair.mp among <;> exact fun _ => nofun
  · obtain rfl | rfl := List.mem_pair.mp among <;> exact lawful_scalar fun _ => nofun

theorem beq_equivalence_clock :
    (dictionaryOf (clock 0)).Built ∧ (dictionaryOf (clock 0)).Proper ∧
      (dictionaryOf (clock 0)).Lawful ∧ dictionaryOf (clock 0) == dictionaryOf (clock 0) ∧
      Entries.Distinct (clock 0) ∧ Entries.Distinct (clock 3600).reverse ∧
      dictionary (clock 0) == dictionary (clock 3600).reverse := by
  have built : (dictionaryOf (clock 0)).Built := by
    refine .dictionary fun pair among => ?_
    obtain rfl | rfl := List.mem_pair.mp among <;> exact .scalar _
  have forwards : Entries.Distinct (clock 0) := List.pairwise_pair.mpr (by decide)
  have backwards : Entries.Distinct (clock 3600).reverse := List.pairwise_pair.mpr (by decide)
  have arranged : ∃ arranged, arranged.Perm (clock 3600).reverse ∧
      List.Forall₂ (fun entry other => entry.1 == other.1 ∧ entry.2 == other.2)
        (clock 0) arranged :=
    ⟨clock 3600, (List.reverse_perm _).symm, .cons (by decide) (.cons (by decide) .nil)⟩
  have same := (beq_equivalence.2.2.2.2 _ _ forwards backwards).mpr arranged
  have proper := beq_equivalence.2.2.1 _ built
  have lawful : (dictionaryOf (clock 0)).Lawful := lawful_clock 0
  have reflexive := beq_equivalence.2.2.2.1.refl ⟨dictionaryOf (clock 0), proper, lawful⟩
  exact ⟨built, proper, lawful, reflexive, forwards, backwards, same⟩

end Tree

end LogTree
