import LogTree.Value.Basic

/-!
# Heights of values

The height of a value counts the levels of values inside of it, as far as they can be reached
without a table of objects.
-/

namespace LogTree.Value

/-- Levels of values below a value. -/
def height : Value → Nat
  | present content => content.height + 1
  | pointer _ content => content.height + 1
  | collection _ _ elements => ofElements elements + 1
  | mapping _ _ entries => ofEntries entries + 1
  | anonymous fields => ofFields fields + 1
  | bytes _ _ => 1
  | object _
      { wrapped := wrapped
        optional := possible
        elements := listed
        mapping := mapped
        members := readable, .. } =>
    [ofOption wrapped, ofOptional possible, ofElementsOption listed, ofMapping mapped,
      ofMembersOption readable].foldl max 0 + 1
  | _ => 0
where
  /-- Height of the higher one of two values, one of which may be missing. -/
  ofOption : Option Value → Nat
    | none => 0
    | some content => content.height
  /-- Height of the content of an optional value. -/
  ofOptional : Option (Option Value) → Nat
    | none => 0
    | some content => ofOption content
  /-- Height of the highest element. -/
  ofElements : List Value → Nat
    | [] => 0
    | element :: elements => max element.height (ofElements elements)
  /-- Height of the highest element of a collection that may be missing. -/
  ofElementsOption : Option (List Value) → Nat
    | none => 0
    | some elements => ofElements elements
  /-- Height of the highest key or value. -/
  ofEntries : List (Value × Value) → Nat
    | [] => 0
    | (key, content) :: entries => max (max key.height content.height) (ofEntries entries)
  /-- Height of the highest key or value of a mapping that may be missing. -/
  ofMapping : Option (MappingView Value) → Nat
    | none => 0
    | some ⟨_, entries⟩ => ofEntries entries
  /-- Height of the highest field. -/
  ofFields : List (String × Value) → Nat
    | [] => 0
    | (_, content) :: fields => max content.height (ofFields fields)
  /-- Height of what a member gives. -/
  ofMember : Member Value → Nat
    | ⟨_, .field content⟩ => content.height
    | ⟨_, .getter (.value content)⟩ => content.height
    | _ => 0
  /-- Height of the highest member. -/
  ofMembers : List (Member Value) → Nat
    | [] => 0
    | member :: members => max (ofMember member) (ofMembers members)
  /-- Height of the highest member of an object whose members may be missing. -/
  ofMembersOption : Option (List (Member Value)) → Nat
    | none => 0
    | some members => ofMembers members
termination_by structural value => value

end LogTree.Value
