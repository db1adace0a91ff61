import LogTree.Proofs.Capture.Place

/-!
# Members of objects

The record of an object has a property for each member that can be read without arguments and has a
name, in order. A member that cannot be read leaves a text in its own place. How one member is read
makes no difference to the properties of the others, to their order, or to the tag.
-/

namespace LogTree

/-- The member stands for a property: it needs no arguments and its name is not blank. -/
def Member.isCaptured {V : Type} (member : Member V) : Bool :=
  !member.isIndexer && !isBlank member.name

namespace Converter

variable {converter : Converter} {objects : Objects}

section Record

variable (objects) (nested : Mode → Value → Logged Tree)

/-- What stands for the value that reading a member gives. -/
def readingTree : Reading Value → Tree
  | .value content => (nested .destructure content).value
  | .link index => (nested .destructure (objects index)).value
  | .failed error => .text ("The property accessor threw an exception: " ++ error.message)
  | .interrupted cause => .text ("The property accessor threw an exception: " ++ cause.text)

/-- The properties of members in order. -/
def propertiesOf (members : List (Member Value)) : List (String × Tree) :=
  (members.filter Member.isCaptured).map fun member =>
    (member.name, readingTree objects nested member.read)

theorem propertiesOf_append (front back : List (Member Value)) :
    propertiesOf objects nested (front ++ back) =
      propertiesOf objects nested front ++ propertiesOf objects nested back := by
  rw [propertiesOf, List.filter_append, List.map_append]
  rfl

theorem propertiesOf_cons (member : Member Value) (members : List (Member Value)) :
    propertiesOf objects nested (member :: members) =
      propertiesOf objects nested [member] ++ propertiesOf objects nested members :=
  propertiesOf_append objects nested [member] members

theorem value_propertyOf (owner : Value) (member : Member Value) :
    (propertyOf objects nested owner member).value =
      if member.isCaptured then some (member.name, readingTree objects nested member.read)
      else none := by
  unfold propertyOf Member.isCaptured
  cases member.isIndexer with
  | true => rfl
  | false =>
    cases isBlank member.name with
    | true => rfl
    | false => cases member.read <;> rfl

/-- The record of an object has the properties of its members. -/
theorem value_ofMembers (owner : Value) (members : List (Member Value)) :
    (ofMembers objects nested owner members).value =
      .record (tagOf owner.typeName) (propertiesOf objects nested members) := by
  rw [ofMembers, Logged.value_bind, Logged.value_traverse, Logged.value_pure]
  congr 1
  induction members with
  | nil => rfl
  | cons member members induction =>
    rw [List.map_cons, value_propertyOf, propertiesOf, List.filter_cons]
    split
    · exact congrArg ((member.name, readingTree objects nested member.read) :: ·) induction
    · exact induction

end Record

/-- At a depth a value is taken apart as an object that lets a log see some members. -/
structure TakenApart (converter : Converter) (objects : Objects) (depth : Nat)
    (value owner : Value) (members : List (Member Value)) : Prop where
  /-- Nothing claims the value, and behind wrappers and presence it is the object. -/
  comes : converter.ComesTo objects .destructure ((converter.limiterAt depth).nested objects)
    value owner
  /-- The object is no mapping. -/
  unmapped : owner.mapping? = none
  /-- The object is no collection. -/
  unlisted : owner.elements? = none
  /-- The members of the object. -/
  readable : owner.members? = some members

theorem TakenApart.value_createAt {depth : Nat} {value owner : Value}
    {members : List (Member Value)}
    (taken : converter.TakenApart objects depth value owner members) :
    (converter.createAt objects depth .destructure value).value =
      .record (tagOf owner.typeName)
        (propertiesOf objects ((converter.limiterAt depth).nested objects) members) := by
  have form : converter.byForm objects ((converter.limiterAt depth).nested objects) .destructure
      owner = ofMembers objects ((converter.limiterAt depth).nested objects) owner members := by
    unfold byForm
    rw [taken.unmapped, taken.unlisted, taken.readable]
  rw [value_createAt_of_comesTo taken.comes, form, value_ofMembers]

/-- The property that a member of a name leaves, if the name is not blank. -/
def propertyNamed (name : String) (tree : Tree) : List (String × Tree) :=
  if isBlank name then [] else [(name, tree)]

theorem propertiesOf_singleton (nested : Mode → Value → Logged Tree) {member : Member Value}
    (direct : member.isIndexer = false) :
    propertiesOf objects nested [member] =
      propertyNamed member.name (readingTree objects nested member.read) := by
  rw [propertiesOf, propertyNamed, List.filter_singleton, Member.isCaptured, direct]
  cases isBlank member.name <;> rfl

/-- The members of an object whose type is not registered do not decide whether it is claimed. -/
theorem claim?_changed {fullName : String}
    (unregistered : RegisteredType.find? (.named fullName) converter.registered = none)
    (exposure : Exposure Value) (readable : Option (List (Member Value))) :
    converter.claim? .destructure (.object fullName { exposure with members := readable }) =
      converter.claim? .destructure (.object fullName exposure) := by
  have own : converter.ownScalar? (.object fullName { exposure with members := readable }) =
      converter.ownScalar? (.object fullName exposure) := by
    rw [ownScalar?_eq, ownScalar?_eq, scalarAround?, scalarAround?, typedScalar?, typedScalar?,
      Value.type, Value.type, unregistered]
    rfl
  simp only [claim?, presentClaim?, own]
  rfl

/-- Without added policies an object whose type is not registered is taken apart whatever its
members are. -/
theorem TakenApart.changed (free : converter.PolicyFree) {depth : Nat} {value : Value}
    {fullName : String} {exposure : Exposure Value} {members : List (Member Value)}
    (taken : converter.TakenApart objects depth value (.object fullName exposure) members)
    (unregistered : RegisteredType.find? (.named fullName) converter.registered = none)
    (others : List (Member Value)) :
    converter.TakenApart objects depth (.object fullName { exposure with members := some others })
      (.object fullName { exposure with members := some others }) others := by
  obtain ⟨bare, certain, unclaimed⟩ := taken.comes.plain
  refine ⟨.form bare certain ((unclaimed_iff free _).mpr ?_), taken.unmapped, taken.unlisted, rfl⟩
  rw [claim?_changed unregistered]
  exact (unclaimed_iff free _).mp unclaimed

/-- An object that is taken apart becomes a record with a property for each member that can be read
without arguments and has a name, in order; a member that cannot be read leaves a text that tells
why. Reading one member in another way, also in vain, changes the property of that member and
nothing else. -/
theorem createAt_members_contained {depth : Nat} {value owner : Value}
    {members : List (Member Value)}
    (taken : converter.TakenApart objects depth value owner members) :
    (converter.createAt objects depth .destructure value).value =
      .record (tagOf owner.typeName) ((members.filter Member.isCaptured).map fun member =>
        (member.name,
          readingTree objects ((converter.limiterAt depth).nested objects) member.read)) ∧
    ∀ (front back : List (Member Value)) (member : Member Value) (reading : Reading Value)
      (other otherOwner : Value),
      members = front ++ member :: back → member.isIndexer = false →
      converter.TakenApart objects depth other otherOwner
        (front ++ ⟨member.name, .getter reading⟩ :: back) →
      otherOwner.typeName = owner.typeName →
      ∃ before after,
        (converter.createAt objects depth .destructure value).value =
          .record (tagOf owner.typeName) (before ++ propertyNamed member.name
            (readingTree objects ((converter.limiterAt depth).nested objects) member.read) ++
            after) ∧
        (converter.createAt objects depth .destructure other).value =
          .record (tagOf owner.typeName) (before ++ propertyNamed member.name
            (readingTree objects ((converter.limiterAt depth).nested objects) reading) ++
            after) := by
  refine ⟨taken.value_createAt, ?_⟩
  rintro front back member reading other otherOwner rfl direct changed tag
  have replaced : propertiesOf objects ((converter.limiterAt depth).nested objects)
      [⟨member.name, .getter reading⟩] =
        propertyNamed member.name
          (readingTree objects ((converter.limiterAt depth).nested objects) reading) :=
    propertiesOf_singleton _ rfl
  refine ⟨propertiesOf objects ((converter.limiterAt depth).nested objects) front,
    propertiesOf objects ((converter.limiterAt depth).nested objects) back, ?_, ?_⟩
  · rw [taken.value_createAt, propertiesOf_append, propertiesOf_cons,
      propertiesOf_singleton _ direct, List.append_assoc]
  · rw [changed.value_createAt, tag, propertiesOf_append, propertiesOf_cons, replaced,
      List.append_assoc]

/-- Members of all kinds, of which one is read in a given way and one has a blank name. -/
def fragileMembers (reading : Reading Value) : List (Member Value) :=
  [⟨"Ok", .field (.text .owned "fine")⟩, ⟨"Broken", .getter reading⟩, ⟨"Item", .indexer⟩,
    ⟨" ", .field .unit⟩, ⟨"Ok", .getter (.link 0)⟩]

/-- An object with these members. -/
def fragile (reading : Reading Value) : Value :=
  .object "Fragile"
    { typeName := "Fragile"
      text := "Fragile"
      debug := "Fragile"
      members := some (fragileMembers reading) }

/-- An accessor that breaks off instead of giving a value spoils its own property alone, also behind
a wrapper. -/
theorem createAt_members_contained_fragile :
    (ofLimits {} (by decide)).TakenApart (fun _ => .unit) 1
        (.pointer "Box" (fragile (.value .unit))) (fragile (.value .unit))
        (fragileMembers (.value .unit)) ∧
      (ofLimits {} (by decide)).TakenApart (fun _ => .unit) 1
        (fragile (.interrupted (.message "boom"))) (fragile (.interrupted (.message "boom")))
        (fragileMembers (.interrupted (.message "boom"))) ∧
      ∃ before after,
        ((ofLimits {} (by decide)).createAt (fun _ => .unit) 1 .destructure
            (.pointer "Box" (fragile (.value .unit)))).value =
          .record (some "Fragile") (before ++ [("Broken", .null)] ++ after) ∧
        ((ofLimits {} (by decide)).createAt (fun _ => .unit) 1 .destructure
            (fragile (.interrupted (.message "boom")))).value =
          .record (some "Fragile") (before ++
            [("Broken", .text "The property accessor threw an exception: boom")] ++ after) := by
  have taken : (ofLimits {} (by decide)).TakenApart (fun _ => .unit) 1
      (.pointer "Box" (fragile (.value .unit))) (fragile (.value .unit))
      (fragileMembers (.value .unit)) :=
    ⟨.wrapped rfl (.form rfl rfl fun _ => rfl), rfl, rfl, rfl⟩
  have changed := taken.changed (policyFree_ofLimits {} (by decide)) rfl
    (fragileMembers (.interrupted (.message "boom")))
  obtain ⟨before, after, kept, spoilt⟩ := (createAt_members_contained taken).2
    [⟨"Ok", .field (.text .owned "fine")⟩]
    [⟨"Item", .indexer⟩, ⟨" ", .field .unit⟩, ⟨"Ok", .getter (.link 0)⟩]
    ⟨"Broken", .getter (.value .unit)⟩ (.interrupted (.message "boom"))
    _ _ rfl rfl changed rfl
  exact ⟨taken, changed, before, after, kept, spoilt⟩

end Converter

end LogTree
