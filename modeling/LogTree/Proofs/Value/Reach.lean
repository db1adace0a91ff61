import LogTree.Value.Height
import Mathlib.Logic.Relation

/-!
# Values that can be reached

From a value one gets to what it wraps, to its elements, its keys and their values, and to what its
members give. A member may lead to an object of a table, so there may be ways without an end even
though every value is finite.
-/

namespace LogTree.Value

theorem height_lt_of_wrapped {value content : Value} (wrapped : value.wrapped? = some content) :
    content.height < value.height := by
  cases value with
  | pointer fullName inner =>
    obtain rfl : inner = content := by simpa [wrapped?] using wrapped
    simp [height]
  | object fullName exposure =>
    have held : exposure.wrapped = some content := by simpa [wrapped?] using wrapped
    rw [height, held]
    simp only [height.ofOption, List.foldl_cons, List.foldl_nil]
    omega
  | _ => simp [wrapped?] at wrapped

theorem height_lt_of_present {value content : Value}
    (present : value.optional? = some (some content)) : content.height < value.height := by
  cases value with
  | present inner =>
    obtain rfl : inner = content := by simpa [optional?] using present
    simp [height]
  | object fullName exposure =>
    have held : exposure.optional = some (some content) := by simpa [optional?] using present
    rw [height, held]
    simp only [height.ofOptional, height.ofOption, List.foldl_cons, List.foldl_nil]
    omega
  | _ => simp [optional?] at present

/-- What holds of a value if it holds of what the value wraps and of its content, if it is present,
holds of all values. -/
@[elab_as_elim]
theorem content_induction {motive : Value → Prop}
    (step : ∀ value : Value,
      (∀ content, value.wrapped? = some content → motive content) →
      (∀ content, value.optional? = some (some content) → motive content) → motive value)
    (value : Value) : motive value := by
  induction high : value.height using Nat.strongRecOn generalizing value with
  | ind height induction =>
    subst high
    refine step value (fun content wrapped => ?_) (fun content present => ?_)
    · exact induction _ (height_lt_of_wrapped wrapped) content rfl
    · exact induction _ (height_lt_of_present present) content rfl

/-- A value stands directly inside of another one. -/
inductive Holds (objects : Objects) (outer : Value) : Value → Prop where
  /-- It is the content of a transparent wrapper. -/
  | wrapped {content : Value} : outer.wrapped? = some content → Holds objects outer content
  /-- It is the content of a present value. -/
  | present {content : Value} :
      outer.optional? = some (some content) → Holds objects outer content
  /-- It is an element. -/
  | element {elements : List Value} {element : Value} :
      outer.elements? = some elements → element ∈ elements → Holds objects outer element
  /-- It is the key of an entry. -/
  | key {mapping : MappingView Value} {entry : Value × Value} :
      outer.mapping? = some mapping → entry ∈ mapping.entries → Holds objects outer entry.1
  /-- It is the value of an entry. -/
  | entry {mapping : MappingView Value} {entry : Value × Value} :
      outer.mapping? = some mapping → entry ∈ mapping.entries → Holds objects outer entry.2
  /-- A member gives it. -/
  | member {members : List (Member Value)} {member : Member Value} {content : Value} :
      outer.members? = some members → member ∈ members → member.read = .value content →
      Holds objects outer content
  /-- A member leads to it. -/
  | link {members : List (Member Value)} {member : Member Value} {index : Nat} :
      outer.members? = some members → member ∈ members → member.read = .link index →
      Holds objects outer (objects index)

theorem Holds.mem_collection {objects : Objects} {fullName : String} {brackets : Brackets}
    {elements : List Value} {inner : Value}
    (held : Holds objects (collection fullName brackets elements) inner) : inner ∈ elements := by
  cases held with
  | element listed place => exact Option.some.inj listed ▸ place
  | _ => contradiction

/-- A value is another one or can be got to from it. -/
def Reaches (objects : Objects) : Value → Value → Prop :=
  Relation.ReflTransGen (Holds objects)

namespace Reaches

variable {objects : Objects} {outer middle inner : Value}

theorem refl (value : Value) : Reaches objects value value :=
  Relation.ReflTransGen.refl

theorem trans (first : Reaches objects outer middle) (second : Reaches objects middle inner) :
    Reaches objects outer inner :=
  Relation.ReflTransGen.trans first second

theorem head (first : Holds objects outer middle) (rest : Reaches objects middle inner) :
    Reaches objects outer inner :=
  Relation.ReflTransGen.head first rest

theorem tail (rest : Reaches objects outer middle) (last : Holds objects middle inner) :
    Reaches objects outer inner :=
  Relation.ReflTransGen.tail rest last

end Reaches

/-- An object whose only member leads to the object at the first place. -/
def ring : Value :=
  .object "Node"
    { typeName := "Node"
      text := "Node(ring)"
      debug := "Node(ring)"
      members := some [⟨"Next", .getter (.link 0)⟩] }

theorem holds_ring {inner : Value} (held : Holds (fun _ => ring) ring inner) : inner = ring := by
  cases held with
  | wrapped present => simp [wrapped?, ring] at present
  | present present => simp [optional?, ring] at present
  | element listed => simp [elements?, ring] at listed
  | key mapped => simp [mapping?, ring] at mapped
  | entry mapped => simp [mapping?, ring] at mapped
  | member readable found reading =>
    obtain rfl := Option.some.inj readable
    obtain rfl := List.mem_singleton.mp found
    simp [Member.read] at reading
  | link => rfl

/-- From a ring one gets nowhere else. -/
theorem eq_ring_of_reaches {inner : Value} (reached : Reaches (fun _ => ring) ring inner) :
    inner = ring := by
  induction reached with
  | refl => rfl
  | tail _ last induction =>
    subst induction
    exact holds_ring last

end LogTree.Value
