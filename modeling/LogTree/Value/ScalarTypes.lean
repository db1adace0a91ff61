import LogTree.Value.Basic

/-!
# Types whose values are scalars

A table holds the well-known scalar types, each with what it makes of its values. The types in the
table are also those whose values can be keys of a dictionary. Further types are registered in the
same form.
-/

namespace LogTree

/-- A type whose values are captured as scalars. -/
structure RegisteredType where
  /-- The type. -/
  type : TypeRef
  /-- The scalar of a value of the type, if there is one. -/
  construct : Value → Option Scalar

namespace RegisteredType

/-- A type registered with a way to make scalars; values of other types have none. -/
def withConstructor (type : TypeRef) (make : Value → Option Scalar) : RegisteredType :=
  ⟨type, fun value => if value.type = type then make value else none⟩

/-- A type whose values are kept as they are. -/
def verbatim (type : TypeRef) : RegisteredType :=
  withConstructor type fun value => value.custom?.map .custom

/-- Diagnostic text of the registration. -/
def debug (registered : RegisteredType) : String :=
  "ScalarType \x7b type_name: " ++ Quoted.text registered.type.fullName ++ " \x7d"

/-- The last registration of a type in a list. -/
def find? (type : TypeRef) (registered : List RegisteredType) : Option RegisteredType :=
  registered.reverse.find? fun candidate => candidate.type = type

/-- A type whose values are copied into an atom of one kind. -/
def copied (type : ScalarType) (copy : Atom → Option Atom) : RegisteredType :=
  withConstructor (.scalar type) fun
    | .atom value => (copy value).map .atom
    | _ => none

/-- A type of integers. -/
def integers (type : IntegerType) : RegisteredType :=
  copied (.integer type) fun | .integer value => some (.integer value) | _ => none

/-- A type of texts. -/
def texts (holding : TextHolding) : RegisteredType :=
  withConstructor (.scalar (.text holding)) fun
    | .text _ content => some (.text content)
    | _ => none

/-- The well-known types. -/
def wellKnown : List RegisteredType :=
  [ withConstructor (.scalar .unit) fun | .unit => some .null | _ => none,
    copied .bool fun | .bool value => some (.bool value) | _ => none,
    copied .char fun | .char value => some (.char value) | _ => none,
    integers (.int .bits8),
    integers (.int .bits16),
    integers (.int .bits32),
    integers (.int .bits64),
    integers (.int .bits128),
    integers (.int .address),
    integers (.nat .bits8),
    integers (.nat .bits16),
    integers (.nat .bits32),
    integers (.nat .bits64),
    integers (.nat .bits128),
    integers (.nat .address),
    copied .single fun | .single bits => some (.single bits) | _ => none,
    copied .double fun | .double bits => some (.double bits) | _ => none,
    texts .owned,
    texts .borrowed,
    texts .either,
    copied .instant fun | .instant moment => some (.instant moment) | _ => none,
    copied .offsetDateTime fun
      | .offsetDateTime moment => some (.offsetDateTime moment)
      | _ => none,
    copied .localDateTime fun | .localDateTime moment => some (.localDateTime moment) | _ => none,
    copied .date fun | .date value => some (.date value) | _ => none,
    copied .time fun | .time value => some (.time value) | _ => none,
    copied .duration fun | .duration value => some (.duration value) | _ => none,
    copied .timeDelta fun | .timeDelta value => some (.timeDelta value) | _ => none,
    copied .uuid fun | .uuid value => some (.uuid value) | _ => none,
    copied .ip fun | .ip value => some (.ip value) | _ => none,
    copied .socket fun | .socket value => some (.socket value) | _ => none,
    copied .path fun | .path value => some (.path value) | _ => none ]

end RegisteredType

/-- Whether a type is one of the well-known scalar types. -/
def TypeRef.isScalar (type : TypeRef) : Bool :=
  (RegisteredType.find? type RegisteredType.wellKnown).isSome

/-- Whether a mapping with such keys becomes a dictionary. -/
def KeyType.isDictionaryKey (key : KeyType) : Bool :=
  key.isEnum || key.type.isScalar

/-- The scalar of a value of a well-known scalar type. -/
def Value.builtIn? (value : Value) : Option Scalar :=
  (RegisteredType.find? value.type RegisteredType.wellKnown).bind (·.construct value)

end LogTree
