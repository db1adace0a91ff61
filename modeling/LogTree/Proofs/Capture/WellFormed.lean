import LogTree.Proofs.Capture.Step
import LogTree.Proofs.Scalar.Sameness

/-!
# Well-formed trees

Every tree inside of a captured one is well-formed: the keys of a dictionary are all different, the
name of every property has a character that is no white space, and a tag begins with a letter and
holds no opening brace. Only a destructuring policy that was added can make another tree.
-/

namespace LogTree

/-- A text has a character that is no white space. -/
def HasInk (text : String) : Prop :=
  ∃ character ∈ text.toList, isBlankChar character = false

theorem hasInk_iff {text : String} : HasInk text ↔ isBlank text = false := by
  simp [HasInk, isBlank, List.all_eq_false]

/-- A text begins with a letter and holds no opening brace. -/
def IsTag (text : String) : Prop :=
  ∃ first rest, text.toList = first :: rest ∧ isLetter first = true ∧ '\x7b' ∉ text.toList

theorem isTag_of_tagOf {typeName tag : String} (tagged : Converter.tagOf typeName = some tag) :
    IsTag tag := by
  rw [Converter.tagOf] at tagged
  split at tagged
  · simp at tagged
  · rename_i first rest letters
    split at tagged
    · rename_i valid
      obtain rfl : typeName = tag := by simpa using tagged
      exact ⟨first, rest, letters, valid.1, valid.2⟩
    · simp at tagged

namespace Tree

/-- What is asked of the root of a tree: no two keys of a dictionary are the same, in whichever
order they are compared, and properties and tags have proper names. -/
def WellFormed : Tree → Prop
  | scalar _ => True
  | sequence _ => True
  | dictionary entries =>
    (entries.map (·.1)).Pairwise fun first second => ¬ first == second ∧ ¬ second == first
  | record tag properties =>
    (∀ property ∈ properties, HasInk property.1) ∧ ∀ type, tag = some type → IsTag type

theorem wellFormed_dictionaryOf (pairs : List (Scalar × Tree)) :
    (dictionaryOf pairs).WellFormed := by
  refine List.pairwise_map.mpr ((Entries.distinct_ofList pairs).imp ?_)
  intro first second apart
  have different := Bool.eq_false_iff.mp apart
  exact ⟨different, fun same => different (BEq.symm same)⟩

end Tree

namespace Converter

variable {converter : Converter} {objects : Objects} {mode : Mode}

theorem hasInk_of_property?_slotOf {owner : Value} {member : Member Value}
    {property : String × Request}
    (made : (slotOf objects owner member).property? = some property) : HasInk property.1 := by
  rw [eq_of_property?_slotOf made]
  refine hasInk_iff.mpr ?_
  rw [slotOf] at made
  split at made
  · simp [Slot.property?] at made
  · split at made
    · simp [Slot.property?] at made
    · rename_i named
      exact Bool.eq_false_iff.mpr named

theorem wellFormed_form (key : Value → Scalar) (value : Value) (fill : Request → Tree) :
    ((converter.formLayerBy objects mode key value).map fill).merged.tree.WellFormed := by
  rcases formLayerBy_cases key value with
    ⟨entries, form⟩ | ⟨entries, form⟩ | ⟨elements, form⟩ | ⟨-, members, form⟩ | ⟨content, form⟩ <;>
    rw [form]
  · exact Tree.wellFormed_dictionaryOf _
  · trivial
  · trivial
  · refine ⟨fun property found => ?_, fun type tagged => isTag_of_tagOf tagged⟩
    obtain ⟨slot, listed, made⟩ := List.mem_filterMap.mp found
    obtain ⟨source, sourced, rfl⟩ := List.mem_map.mp listed
    obtain ⟨member, -, rfl⟩ := List.mem_map.mp sourced
    rw [Slot.property?_map] at made
    obtain ⟨asked, slotted, rfl⟩ := Option.map_eq_some_iff.mp made
    exact hasInk_of_property?_slotOf slotted
  · trivial

/-- A mapping that repeats a key, with an object whose type and one of whose members have improper
names. -/
def improper : Value :=
  .mapping "MultiMap" ⟨.scalar .bool, false⟩
    [(.atom (.bool true), .unit),
      (.atom (.bool true), .object "3d"
        { typeName := "3d"
          text := "3d"
          debug := "3d"
          members := some [⟨" ", .field .unit⟩, ⟨"Depth", .field .unit⟩] })]

end Converter

end LogTree
