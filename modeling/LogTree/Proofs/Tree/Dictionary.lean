import LogTree.Proofs.Entries
import LogTree.Proofs.Scalar.Sameness
import LogTree.Tree.Basic

/-!
# Dictionaries from pairs

A dictionary that is made of pairs has an entry for each key among them, however often the key is
written. Place, key and value of the entry come from different pairs: it stands where the key is
written first, has the key as it is written there, and the value that is written last. Keys count as
one if they are the same as scalars, so a moment has one entry whatever the offsets at which it is
written, and a number one for each type that it is written in. A value that is not the same as
itself is never found.
-/

namespace LogTree

namespace Entries

variable {Key Value : Type} [BEq Key]

/-- The value of the last pair that has a key. -/
def last? (key : Key) (pairs : List (Key × Value)) : Option Value :=
  ((pairs.filter fun pair => pair.1 == key).getLast?).map (·.2)

theorem find?_reverse (key : Key) (pairs : List (Key × Value)) :
    find? key pairs.reverse = last? key pairs := by
  rw [find?_eq, last?, ← List.head?_filter, List.filter_reverse, List.head?_reverse]

theorem isSome_last?_iff (key : Key) (pairs : List (Key × Value)) :
    (last? key pairs).isSome ↔ ∃ pair ∈ pairs, pair.1 == key := by
  rw [last?, Option.isSome_map, List.getLast?_isSome, ne_eq, List.filter_eq_nil_iff]
  simp

/-- An entry whose key is the same as itself has the value that is written last. -/
theorem last?_of_mem_ofList [PartialEquivBEq Key] {pairs : List (Key × Value)}
    {entry : Key × Value} (found : entry ∈ ofList pairs) (own : entry.1 == entry.1) :
    last? entry.1 pairs = some entry.2 := by
  rw [← find?_reverse, ← find?_ofList]
  exact find?_of_distinct (distinct_ofList pairs) found own

/-- Writing entries anew leaves them as they are. -/
theorem ofList_ofList [PartialEquivBEq Key] (pairs : List (Key × Value)) :
    ofList (ofList pairs) = ofList pairs :=
  ofList_of_distinct (distinct_ofList pairs)

end Entries

namespace Tree

/-- A registered value that is written twice, with another key between. -/
def stock : List (Scalar × Tree) :=
  [(.custom ⟨"Sku", "7", "sku-7", "Sku(7)"⟩, text "first"), (.text "zone", null),
    (.custom ⟨"Sku", "7", "sku-7", "Sku(7)"⟩, text "last")]

/-- A value of a registered type that is not the same as itself. -/
def noPrice : Scalar := .custom ⟨"Price", "", "NaN", "Price(NaN)"⟩

/-- Two spellings of one moment have one entry, the two zeros have two. -/
example :
    dictionaryOf
        [(.atom (.offsetDateTime ⟨.ofTimestamp 0 0, 0⟩), text "first"),
          (.atom (.double 0), text "zero"),
          (.atom (.double 0x8000000000000000), text "negative zero"),
          (.atom (.offsetDateTime ⟨.ofTimestamp 0 0, 3600⟩), text "last")] =
      dictionary
        [(.atom (.offsetDateTime ⟨.ofTimestamp 0 0, 0⟩), text "last"),
          (.atom (.double 0), text "zero"),
          (.atom (.double 0x8000000000000000), text "negative zero")] :=
  rfl

end Tree

end LogTree
