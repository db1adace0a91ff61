import LogTree.Capture.Policy

/-!
# The table of scalar types

The table has an entry for each of the well-known types and for no other type, and the entry of a
type makes the scalar of its kind of every value of the type. So a value has a scalar by the table
exactly if it is empty, an atom or a text, whatever types are registered besides.
-/

namespace LogTree

theorem RegisteredType.find?_wellKnown_named (fullName : String) :
    find? (.named fullName) wellKnown = none := by
  rfl

theorem TypeRef.isScalar_iff {type : TypeRef} :
    type.isScalar ↔ ∃ known, type = .scalar known := by
  cases type with
  | named fullName => simp [isScalar, RegisteredType.find?_wellKnown_named]
  | scalar known =>
    refine iff_of_true ?_ ⟨known, rfl⟩
    cases known with
    | integer type =>
      obtain ⟨signed, width⟩ := type
      cases signed <;> cases width <;> rfl
    | text holding => cases holding <;> rfl
    | _ => rfl

namespace Value

variable {value : Value}

theorem builtIn?_integer (value : Integer) :
    (atom (.integer value)).builtIn? = some (.atom (.integer value)) := by
  obtain ⟨⟨signed, width⟩, number, held⟩ := value
  cases signed <;> cases width <;> rfl

/-- The entry of an atom's type copies the atom. -/
@[simp]
theorem builtIn?_atom (value : Atom) : (atom value).builtIn? = some (.atom value) := by
  cases value with
  | integer value => exact builtIn?_integer value
  | _ => rfl

@[simp]
theorem builtIn?_text (holding : TextHolding) (content : String) :
    (text holding content).builtIn? = some (.text content) := by
  cases holding <;> rfl

theorem builtIn?_of_named {fullName : String} (named : value.type = .named fullName) :
    value.builtIn? = none := by
  rw [builtIn?, named, RegisteredType.find?_wellKnown_named, Option.bind_none]

/-- What the table makes of values, by the form of the value. -/
theorem builtIn?_eq (value : Value) :
    value.builtIn? =
      match value with
      | unit => some .null
      | atom content => some (.atom content)
      | text _ content => some (.text content)
      | _ => none := by
  cases value with
  | unit => rfl
  | atom content => exact builtIn?_atom content
  | text holding content => exact builtIn?_text holding content
  | bytes holding content => cases holding <;> exact builtIn?_of_named rfl
  | _ => exact builtIn?_of_named rfl

/-- Only values of the well-known types are of a type in the table. -/
theorem isSome_builtIn? (known : value.type.isScalar) : value.builtIn?.isSome := by
  obtain ⟨type, same⟩ := TypeRef.isScalar_iff.mp known
  rw [builtIn?_eq]
  cases value with
  | unit => rfl
  | atom => rfl
  | text => rfl
  | bytes holding => cases holding <;> cases same
  | _ => cases same

end Value

/-- The entry of the table comes first, and it leaves nothing to a registration of its type. -/
theorem ScalarPolicy.wellKnown_eq (registered : List RegisteredType) (value : Value)
    (factory : Factory) :
    wellKnown registered value factory =
      pure (value.builtIn?.or
        ((RegisteredType.find? value.type registered).bind (·.construct value))) := by
  refine congrArg pure ?_
  cases known : RegisteredType.find? value.type RegisteredType.wellKnown with
  | none => rw [Value.builtIn?, known, Option.none_or, Option.bind_none, Option.none_or]
  | some entry =>
    have made : entry.construct value = value.builtIn? := by rw [Value.builtIn?, known]; rfl
    have listed : value.type.isScalar := by rw [TypeRef.isScalar, known]; rfl
    obtain ⟨scalar, built⟩ := Option.isSome_iff_exists.mp (Value.isSome_builtIn? listed)
    rw [Option.some_or, Option.bind_some, made, built, Option.some_or]

end LogTree
