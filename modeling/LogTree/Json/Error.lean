import LogTree.Number.Digits

/-!
# Errors of reading JSON

A text is refused because it is no JSON, because it breaks off, or because the document that it
holds is not of the expected form.
-/

namespace LogTree

/-- Why a JSON text is refused. -/
inductive JsonErrorCategory where
  /-- The text is not JSON. -/
  | malformed
  /-- The text ends before its document does. -/
  | cutOff
  /-- The document is not of the expected form. -/
  | unexpected
deriving DecidableEq, Repr, Inhabited

/-- An error of reading a JSON text. -/
structure JsonError where
  /-- Kind of the error. -/
  category : JsonErrorCategory
  /-- What is wrong. -/
  description : String
  /-- Line and column where it was found, if they are kept. -/
  place : Option (Nat × Nat)
deriving DecidableEq, Repr, Inhabited

namespace JsonError

/-- Text of the error. -/
def message (error : JsonError) : String :=
  match error.place with
  | none => error.description
  | some (line, column) =>
    error.description ++ " at line " ++ String.ofList (Digits.decimal line) ++ " column " ++
      String.ofList (Digits.decimal column)

/-- The error of an empty text. -/
def emptyText : JsonError :=
  ⟨.cutOff, "EOF while parsing a value", some (1, 0)⟩

end JsonError

end LogTree
