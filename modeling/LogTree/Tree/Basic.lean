import LogTree.Entries
import LogTree.Scalar.Basic

/-!
# Captured trees

What a log event keeps of a value: a scalar, a sequence of trees, a dictionary from scalars to trees
in order of insertion, or a record of named properties that may carry the name of its type.
-/

namespace LogTree

/-- A captured value. -/
inductive Tree where
  /-- A datum without parts. -/
  | scalar (value : Scalar)
  /-- An ordered list of trees. -/
  | sequence (elements : List Tree)
  /-- Trees under scalar keys. -/
  | dictionary (entries : List (Scalar × Tree))
  /-- Trees under names, with the name of the type they were read from. -/
  | record (tag : Option String) (properties : List (String × Tree))

instance : Inhabited Tree := ⟨.scalar .null⟩

namespace Tree

/-- The tree of nothing. -/
def null : Tree := scalar .null

/-- The tree of a text. -/
def text (content : String) : Tree := scalar (.text content)

/-- The dictionary that pairs of keys and trees leave when they are written in order. -/
def dictionaryOf (pairs : List (Scalar × Tree)) : Tree :=
  dictionary (Entries.ofList pairs)

/-- The scalar that a tree consists of. -/
def scalar? : Tree → Option Scalar
  | scalar value => some value
  | _ => none

/-- The elements of a sequence. -/
def elements? : Tree → Option (List Tree)
  | sequence elements => some elements
  | _ => none

/-- The entries of a dictionary. -/
def entries? : Tree → Option (List (Scalar × Tree))
  | dictionary entries => some entries
  | _ => none

/-- The tag and the properties of a record. -/
def record? : Tree → Option (Option String × List (String × Tree))
  | record tag properties => some (tag, properties)
  | _ => none

/-- The tree under a key of a dictionary. -/
def entry? (key : Scalar) (tree : Tree) : Option Tree :=
  tree.entries?.bind (Entries.find? key)

/-- The tree of the first property of a name in a record. -/
def property? (name : String) (tree : Tree) : Option Tree :=
  tree.record?.bind fun parts => Entries.find? name parts.2

/-- Whether two trees hold the same: sequences and records in the same order, dictionaries in any
order. -/
def same : Tree → Tree → Bool
  | scalar left, scalar right => left == right
  | sequence left, sequence right => sameElements left right
  | dictionary left, dictionary right =>
    left.length == right.length && sameEntries left right
  | record leftTag left, record rightTag right =>
    leftTag == rightTag && sameProperties left right
  | _, _ => false
where
  /-- Whether two lists hold the same trees. -/
  sameElements : List Tree → List Tree → Bool
    | [], [] => true
    | left :: lefts, right :: rights => same left right && sameElements lefts rights
    | _, _ => false
  /-- Whether the other entries hold the same tree under each key. -/
  sameEntries : List (Scalar × Tree) → List (Scalar × Tree) → Bool
    | [], _ => true
    | (key, left) :: lefts, others =>
      (match Entries.find? key others with
        | some right => same left right
        | none => false) && sameEntries lefts others
  /-- Whether two lists hold the same names and trees. -/
  sameProperties : List (String × Tree) → List (String × Tree) → Bool
    | [], [] => true
    | (leftName, left) :: lefts, (rightName, right) :: rights =>
      leftName == rightName && same left right && sameProperties lefts rights
    | _, _ => false
termination_by structural tree => tree

instance : BEq Tree := ⟨same⟩

end Tree

end LogTree
