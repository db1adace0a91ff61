import LogTree.Proofs.Capture.Claim
import LogTree.Proofs.Tree.Settled

/-!
# Look-up in records and in their JSON values

A name may stand for several properties of a record. Looked up in the record it gives the first of
them; the JSON value of the record has the last one under that name. The tag is an entry of the JSON
value as well, and a property of the name that it is written under takes its place.
-/

namespace LogTree

namespace Json

/-- The value under a name of an object. -/
def member? (name : String) : Json → Option Json
  | object members => Entries.find? name members
  | _ => none

end Json

namespace Tree

/-- The tree of the last property of a name in a record. -/
def lastProperty? (name : String) (tree : Tree) : Option Tree :=
  tree.record?.bind fun parts => Entries.find? name parts.2.reverse

theorem jsonValue_record (tag : Option String) (properties : List (String × Tree)) :
    (record tag properties).jsonValue = .object (Entries.ofList
      (tagMember tag ++ properties.map fun property => (property.1, property.2.jsonValue))) := by
  have tagged : (tagMember tag).map (fun member => (member.1, member.2.settled)) =
      tagMember tag := by
    cases tag <;> rfl
  rw [jsonValue, document_record, Json.settled_object, List.map_append, tagged, List.map_map]
  rfl

theorem find?_tagMember (tag : Option String) (name : String) :
    Entries.find? name (tagMember tag).reverse =
      if name = tagName then tag.map .string else none := by
  cases tag with
  | none =>
    rw [Option.map_none, ite_self]
    rfl
  | some type =>
    by_cases same : name = tagName
    · rw [same, if_pos rfl]
      exact if_pos (beq_self_eq_true tagName)
    · rw [if_neg same]
      exact if_neg fun other => same (eq_of_beq other).symm

/-- A name gives the last property that has it, and the tag if no property does. -/
theorem member?_jsonValue (tag : Option String) (properties : List (String × Tree))
    (name : String) :
    (record tag properties).jsonValue.member? name =
      (((record tag properties).lastProperty? name).map jsonValue).or
        (if name = tagName then tag.map .string else none) := by
  rw [jsonValue_record, Json.member?, Entries.find?_ofList, List.reverse_append,
    Entries.find?_append, find?_tagMember, ← List.map_reverse, Entries.find?_map]
  rfl

theorem isSome_lastProperty? (tag : Option String) {properties : List (String × Tree)}
    {name : String} (named : name ∈ properties.map (·.1)) :
    ((record tag properties).lastProperty? name).isSome := by
  refine Entries.isSome_find? ?_
  rw [List.map_reverse]
  exact List.mem_reverse.mpr named

theorem member?_jsonValue_of_mem (tag : Option String) {properties : List (String × Tree)}
    {name : String} (named : name ∈ properties.map (·.1)) :
    (record tag properties).jsonValue.member? name =
      ((record tag properties).lastProperty? name).map jsonValue := by
  obtain ⟨last, found⟩ := Option.isSome_iff_exists.mp (isSome_lastProperty? tag named)
  rw [member?_jsonValue, found]
  rfl

theorem lastProperty?_eq_property? (tag : Option String) {properties : List (String × Tree)}
    (distinct : (properties.map (·.1)).Nodup) (name : String) :
    (record tag properties).lastProperty? name = (record tag properties).property? name := by
  have apart : Entries.Distinct properties :=
    (List.pairwise_map.mp distinct).imp fun different => beq_false_of_ne different
  exact Entries.find?_reverse_of_distinct name apart

/-- The JSON value of a record has under each name the last property of that name, and the tag under
its own name if no property is called so. So it agrees with looking up names in the record exactly
if the first and the last property of each name have the same JSON value, as they do if no name is
repeated; and it holds the tag unless the last property that is called so has another value. -/
theorem record_jsonValue_members (tag : Option String) (properties : List (String × Tree)) :
    (∀ name, (record tag properties).jsonValue.member? name =
      (((record tag properties).lastProperty? name).map jsonValue).or
        (if name = tagName then tag.map .string else none)) ∧
    ((∀ name ∈ properties.map (·.1), (record tag properties).jsonValue.member? name =
        ((record tag properties).property? name).map jsonValue) ↔
      ∀ name ∈ properties.map (·.1), ((record tag properties).lastProperty? name).map jsonValue =
        ((record tag properties).property? name).map jsonValue) ∧
    ((properties.map (·.1)).Nodup → ∀ name ∈ properties.map (·.1),
      (record tag properties).jsonValue.member? name =
        ((record tag properties).property? name).map jsonValue) ∧
    ∀ type, tag = some type →
      ((record tag properties).jsonValue.member? tagName = some (.string type) ↔
        ∀ last, (record tag properties).lastProperty? tagName = some last →
          last.jsonValue = .string type) := by
  refine ⟨member?_jsonValue tag properties, ?_, ?_, ?_⟩
  · refine forall₂_congr fun name named => ?_
    rw [member?_jsonValue_of_mem tag named]
  · intro distinct name named
    rw [member?_jsonValue_of_mem tag named, lastProperty?_eq_property? tag distinct]
  · rintro type rfl
    rw [member?_jsonValue, if_pos rfl]
    cases (record (some type) properties).lastProperty? tagName with
    | none => simp
    | some last => simp

/-- A tagged record with two properties of different names. -/
theorem record_jsonValue_members_account :
    ([("Id", text "7"), ("Owner", null)].map (·.1)).Nodup ∧
      (record (some "Account") [("Id", text "7"), ("Owner", null)]).jsonValue.member? "Owner" =
        some .null ∧
      (record (some "Account") [("Id", text "7"), ("Owner", null)]).jsonValue.member? tagName =
        some (.string "Account") := by
  obtain ⟨-, -, agrees, tagged⟩ :=
    record_jsonValue_members (some "Account") [("Id", text "7"), ("Owner", null)]
  refine ⟨by decide, agrees (by decide) "Owner" (by decide), (tagged "Account" rfl).mpr ?_⟩
  intro last found
  exact absurd found.symm (Option.some_ne_none last)

/-- An ad-hoc object may give a name twice, and an object may have a member that is called like the
tag. -/
theorem not_forall_record_jsonValue_members :
    (¬ ∀ (converter : Converter) (objects : Objects) (value : Value) (tag : Option String)
      (properties : List (String × Tree)),
      (converter.convert objects .destructure value).value = record tag properties →
        ∀ name ∈ properties.map (·.1), (record tag properties).jsonValue.member? name =
          ((record tag properties).property? name).map jsonValue) ∧
    ¬ ∀ (converter : Converter) (objects : Objects) (value : Value) (type : String)
      (properties : List (String × Tree)),
      (converter.convert objects .destructure value).value = record (some type) properties →
        (record (some type) properties).jsonValue.member? tagName = some (.string type) := by
  constructor
  · intro agrees
    have same := agrees (.ofLimits {} (by decide)) (fun _ => .unit)
      (.anonymous [("A", .text .owned "first"), ("A", .text .owned "last")]) none
      [("A", text "first"), ("A", text "last")] rfl "A" List.mem_cons_self
    exact absurd (Json.string.inj (Option.some.inj same)) (by decide)
  · intro tagged
    have kept := tagged (.ofLimits {} (by decide)) (fun _ => .unit)
      (.object "Order"
        { typeName := "Order"
          text := "Order"
          debug := "Order"
          members := some [⟨tagName, .field (.text .owned "other")⟩] })
      "Order" [(tagName, text "other")] rfl
    exact absurd (Json.string.inj (Option.some.inj kept)) (by decide)

end Tree

end LogTree
