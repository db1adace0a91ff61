import LogTree.Scalar.Render
import LogTree.Tree.Basic

/-!
# Rendering of trees

A sequence hands a format on to its elements; a dictionary and a record render what is below them
without one. The separators reach every scalar.
-/

namespace LogTree.Tree

/-- The text of a tree in a format with separators. -/
def render (format : Option String) (provider : Option Separators) : Tree → String
  | scalar value => value.render format provider
  | sequence elements => "[" ++ ", ".intercalate (renderElements format provider elements) ++ "]"
  | dictionary entries => "[" ++ ", ".intercalate (renderEntries provider entries) ++ "]"
  | record tag properties =>
    (match tag with
      | some name => name ++ " "
      | none => "") ++
      "\x7b " ++ ", ".intercalate (renderProperties provider properties) ++ " \x7d"
where
  /-- The texts of elements. -/
  renderElements (format : Option String) (provider : Option Separators) :
      List Tree → List String
    | [] => []
    | element :: elements =>
      element.render format provider :: renderElements format provider elements
  /-- The texts of entries, each in parentheses. -/
  renderEntries (provider : Option Separators) : List (Scalar × Tree) → List String
    | [] => []
    | (key, value) :: entries =>
      ("(" ++ key.render none provider ++ ": " ++ value.render none provider ++ ")") ::
        renderEntries provider entries
  /-- The texts of properties. -/
  renderProperties (provider : Option Separators) : List (String × Tree) → List String
    | [] => []
    | (name, value) :: properties =>
      (name ++ ": " ++ value.render none provider) :: renderProperties provider properties
termination_by structural tree => tree

/-- The text of a tree without format and separators. -/
def display (tree : Tree) : String :=
  tree.render none none

end LogTree.Tree
