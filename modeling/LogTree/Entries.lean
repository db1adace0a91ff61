/-!
# Entries in order of insertion

Pairs of keys and values in which every key stands once, at the place where it was first written and
as it was first written, with the value that was written last.
-/

namespace LogTree.Entries

variable {Key Value : Type} [BEq Key]

/-- The entries with a value written under a key. -/
def insert (key : Key) (value : Value) : List (Key × Value) → List (Key × Value)
  | [] => [(key, value)]
  | entry :: entries =>
    if entry.1 == key then (entry.1, value) :: entries else entry :: insert key value entries

/-- The entries that a list of pairs leaves when it is written from left to right onto others. -/
def insertAll (pairs entries : List (Key × Value)) : List (Key × Value) :=
  pairs.foldl (fun entries pair => insert pair.1 pair.2 entries) entries

/-- The entries that a list of pairs leaves when it is written from left to right. -/
def ofList (pairs : List (Key × Value)) : List (Key × Value) :=
  insertAll pairs []

/-- The value under a key. -/
def find? (key : Key) : List (Key × Value) → Option Value
  | [] => none
  | entry :: entries => if entry.1 == key then some entry.2 else find? key entries

@[simp]
theorem ofList_nil : ofList ([] : List (Key × Value)) = [] := rfl

/-- Writing two lists one after the other is writing the second onto the entries of the first. -/
theorem ofList_append (left right : List (Key × Value)) :
    ofList (left ++ right) = insertAll right (ofList left) := by
  simp [ofList, insertAll]

end LogTree.Entries
