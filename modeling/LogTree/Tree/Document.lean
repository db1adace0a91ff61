import LogTree.Json.Basic
import LogTree.Tree.Basic

/-!
# Trees as JSON documents

A dictionary and a record become objects, the keys of a dictionary being written as plain text and
the tag of a record as a member of its own before all properties. A scalar becomes what JSON has for
it, and its plain text otherwise.
-/

namespace LogTree

namespace Scalar

/-- An integer as a document: a number if 64 bits of its signedness hold it, and a string
otherwise. -/
def integerDocument (integer : Integer) : Json :=
  if (IntegerType.mk integer.type.signed .bits64).Holds integer.value then
    .integer integer.value
  else .string integer.text

/-- A scalar as a document. -/
def document : Scalar → Json
  | null => .null
  | atom (.bool value) => .bool value
  | atom (.integer value) => integerDocument value
  | atom (.single bits) =>
    match singleDatum bits with
    | .finite negative magnitude => .single negative magnitude
    | other => .string (other.text .single .plain)
  | atom (.double bits) =>
    match doubleDatum bits with
    | .finite negative magnitude => .double negative magnitude
    | other => .string (other.text .double .plain)
  | other => .string other.display

end Scalar

namespace Tree

/-- Name of the member that holds the tag of a record. -/
def tagName : String := "_typeTag"

/-- The member that holds a tag. -/
def tagMember : Option String → List (String × Json)
  | some name => [(tagName, .string name)]
  | none => []

/-- A tree as a document, with all its keys and names, repeated or not. -/
def document : Tree → Json
  | scalar value => value.document
  | sequence elements => .array (documentElements elements)
  | dictionary entries => .object (documentEntries entries)
  | record tag properties => .object (tagMember tag ++ documentProperties properties)
where
  /-- Elements as documents. -/
  documentElements : List Tree → List Json
    | [] => []
    | element :: elements => element.document :: documentElements elements
  /-- Entries as members. -/
  documentEntries : List (Scalar × Tree) → List (String × Json)
    | [] => []
    | (key, value) :: entries => (key.display, value.document) :: documentEntries entries
  /-- Properties as members. -/
  documentProperties : List (String × Tree) → List (String × Json)
    | [] => []
    | (name, value) :: properties => (name, value.document) :: documentProperties properties
termination_by structural tree => tree

/-- A tree as a JSON value, in which each object names a member once. -/
def jsonValue (tree : Tree) : Json :=
  tree.document.settled

/-- The JSON text of a tree. -/
def jsonText (tree : Tree) : String :=
  tree.document.compact

/-- The JSON text of a tree with a line for each element and member. -/
def prettyText (tree : Tree) : String :=
  tree.document.pretty

end Tree

end LogTree
