import LogTree.Capture.Bytes
import LogTree.Capture.Notice
import LogTree.Tree.Basic
import LogTree.Value.ScalarTypes
import LogTree.Value.Text

/-!
# Policies

A policy decides how a value is captured, or declines. A scalar policy makes a scalar of a value; a
destructuring policy makes a tree of a value that would be taken apart otherwise. A policy gets a
factory for what it finds inside of the value.
-/

namespace LogTree

/-- How a value is to be captured. -/
inductive Mode where
  /-- Scalars and collections as such, other values as text. -/
  | default
  /-- Other values as records of their members. -/
  | destructure
  /-- Every value as text. -/
  | stringify
deriving DecidableEq, Repr

namespace Mode

/-- All modes. -/
def all : List Mode := [default, destructure, stringify]

/-- Name of the mode. -/
def name : Mode → String
  | default => "Default"
  | destructure => "Destructure"
  | stringify => "Stringify"

/-- The mode of a name. -/
def ofName? (name : String) : Option Mode :=
  all.find? (·.name = name)

end Mode

/-- What converts the values that a policy finds inside of a value. -/
structure Factory where
  /-- The tree of a value, which may be absent. -/
  create : Option Value → Mode → Logged Tree
  /-- The scalar of a value, if the scalar policies make one. -/
  scalar : Value → Logged (Option Scalar)
  /-- The objects that members lead to. -/
  objects : Objects

/-- Makes a scalar of a value, or declines. -/
def ScalarPolicy : Type := Value → Factory → Logged (Option Scalar)

/-- Makes a tree of a value, or declines. -/
def DestructuringPolicy : Type := Value → Factory → Logged (Option Tree)

namespace ScalarPolicy

/-- Values of the well-known scalar types as they are, and values of registered types as the last
registration says. A well-known type cannot be registered anew. -/
def wellKnown (registered : List RegisteredType) : ScalarPolicy := fun value _ =>
  let known := RegisteredType.find? value.type RegisteredType.wellKnown
  let own := RegisteredType.find? value.type registered
  pure ((known.or own).bind (·.construct value))

/-- An absent value as nothing, and a present one as the scalar of its content. -/
def nullable : ScalarPolicy := fun value factory =>
  match value.optional? with
  | none => pure none
  | some none => pure (some .null)
  | some (some content) => factory.scalar content

/-- A named constant as such. -/
def constant : ScalarPolicy := fun value _ =>
  pure (value.constant?.map .constant)

/-- A byte sequence as hexadecimal text. -/
def byteSequence : ScalarPolicy := fun value _ =>
  pure (value.bytes?.map fun content => .text (ByteText.encode content))

/-- The policies that come before all others. -/
def builtIn (registered : List RegisteredType) : List ScalarPolicy :=
  [wellKnown registered, nullable, constant, byteSequence]

end ScalarPolicy

namespace DestructuringPolicy

/-- A function as its signature. -/
def callable : DestructuringPolicy := fun value _ =>
  pure (value.callable?.map .text)

/-- A description of a type or a member as its name. -/
def descriptor : DestructuringPolicy := fun value _ =>
  pure (value.descriptor?.map .text)

/-- The policies that come after all others. -/
def builtIn : List DestructuringPolicy :=
  [callable, descriptor]

end DestructuringPolicy

end LogTree
