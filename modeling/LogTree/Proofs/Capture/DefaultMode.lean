import LogTree.Proofs.Capture.Step
import Mathlib.Data.List.Forall2

/-!
# The default mode

By default nothing is taken apart: whatever the policies are, no record is anywhere in the captured
tree. Without added scalar policies destructuring policies make no difference, and neither do
members as long as they are not shown in another way: by the text of a value, or by the scalar that
the registration of its type makes of it.
-/

/-- Optional items that are related are related in every wider way. -/
theorem Option.Rel.imp {First Second : Type} {narrow wide : First → Second → Prop}
    (widen : ∀ first second, narrow first second → wide first second) {first : Option First}
    {second : Option Second} (related : Option.Rel narrow first second) :
    Option.Rel wide first second := by
  cases related with
  | none => exact .none
  | some pair => exact .some (widen _ _ pair)

theorem Option.Rel.of_refl {Item : Type} {related : Item → Item → Prop}
    (same : ∀ item, related item item) (item : Option Item) : Option.Rel related item item := by
  cases item with
  | none => exact .none
  | some item => exact .some (same item)

namespace LogTree

theorem Logged.traverse_forall₂ {First Second Result : Type} {first : First → Logged Result}
    {second : Second → Logged Result} {lefts : List First} {rights : List Second}
    (agree : List.Forall₂ (fun left right => first left = second right) lefts rights) :
    Logged.traverse first lefts = Logged.traverse second rights := by
  induction agree with
  | nil => rfl
  | cons same _ induction => rw [traverse, traverse, same, induction]

theorem RegisteredType.mem_of_find? {type : TypeRef} {registered : List RegisteredType}
    {found : RegisteredType} (looked : RegisteredType.find? type registered = some found) :
    found ∈ registered ∧ found.type = type :=
  ⟨List.mem_reverse.mp (List.mem_of_find?_eq_some looked), by simpa using List.find?_some looked⟩

namespace Value

/-- Two mappings have keys of the same type, and entries that are alike in order. -/
def AlikeMappings (alike : Value → Value → Prop) (left right : MappingView Value) : Prop :=
  left.key = right.key ∧
    List.Forall₂ (fun first second => alike first.1 second.1 ∧ alike first.2 second.2)
      left.entries right.entries

/-- Two values let the same be seen of themselves, apart from their members and up to the values
inside of them, which are alike. -/
structure LooksAlike (alike : Value → Value → Prop) (left right : Value) : Prop where
  /-- They are of the same type. -/
  type : left.type = right.type
  /-- They hold the same datum, if their type is a well-known one. -/
  builtIn? : left.builtIn? = right.builtIn?
  /-- Their types have the same name. -/
  typeName : left.typeName = right.typeName
  /-- What they wrap is alike. -/
  wrapped? : Option.Rel alike left.wrapped? right.wrapped?
  /-- Both are absent, or what is present is alike. -/
  optional? : Option.Rel (Option.Rel alike) left.optional? right.optional?
  /-- They are the same named constant. -/
  constant? : left.constant? = right.constant?
  /-- They are the same bytes. -/
  bytes? : left.bytes? = right.bytes?
  /-- They have the same signature. -/
  callable? : left.callable? = right.callable?
  /-- They describe the same. -/
  descriptor? : left.descriptor? = right.descriptor?
  /-- Their elements are alike in order. -/
  elements? : Option.Rel (List.Forall₂ alike) left.elements? right.elements?
  /-- Their keys and values are alike in order. -/
  mapping? : Option.Rel (AlikeMappings alike) left.mapping? right.mapping?
  /-- They are kept as the same scalar, if they are kept as they are. -/
  custom? : left.custom? = right.custom?

/-- Two values differ in nothing but the members of values in them, and what takes one another's
place in them agrees besides: some relation holds of both that holds only of values which agree and
look alike up to that relation. -/
def SameButMembers (agree : Value → Value → Prop) (left right : Value) : Prop :=
  ∃ alike : Value → Value → Prop,
    (∀ first second, alike first second → LooksAlike alike first second ∧ agree first second) ∧
      alike left right

/-- Two values are shown alike without being taken apart. -/
structure ShownAlike (registered : List RegisteredType) (left right : Value) : Prop where
  /-- They have the same text. -/
  display : left.display = right.display
  /-- Registrations of their type make the same scalar of them. -/
  construct : ∀ candidate ∈ registered, candidate.type = left.type →
    candidate.construct left = candidate.construct right

variable {registered : List RegisteredType} {agree : Value → Value → Prop} {left right : Value}

theorem LooksAlike.imp {narrow wide : Value → Value → Prop}
    (widen : ∀ first second, narrow first second → wide first second)
    (looks : LooksAlike narrow left right) : LooksAlike wide left right where
  type := looks.type
  builtIn? := looks.builtIn?
  typeName := looks.typeName
  wrapped? := looks.wrapped?.imp widen
  optional? := looks.optional?.imp fun _ _ => Option.Rel.imp widen
  constant? := looks.constant?
  bytes? := looks.bytes?
  callable? := looks.callable?
  descriptor? := looks.descriptor?
  elements? := looks.elements?.imp fun _ _ => List.Forall₂.imp widen
  mapping? := looks.mapping?.imp fun _ _ mappings =>
    ⟨mappings.1, mappings.2.imp fun _ _ pair => ⟨widen _ _ pair.1, widen _ _ pair.2⟩⟩
  custom? := looks.custom?

theorem ShownAlike.refl (value : Value) : ShownAlike registered value value :=
  ⟨rfl, fun _ _ _ => rfl⟩

namespace SameButMembers

theorem looksAlike (same : SameButMembers agree left right) :
    LooksAlike (SameButMembers agree) left right := by
  obtain ⟨alike, closed, pair⟩ := same
  exact (closed left right pair).1.imp fun first second other => ⟨alike, closed, other⟩

theorem agrees (same : SameButMembers agree left right) : agree left right := by
  obtain ⟨alike, closed, pair⟩ := same
  exact (closed left right pair).2

/-- Values that look alike up to differences in members differ in nothing but members. -/
theorem of_looksAlike (looks : LooksAlike (SameButMembers agree) left right)
    (related : agree left right) : SameButMembers agree left right := by
  -- One pair more than is related already: its parts look alike by hypothesis.
  refine ⟨fun first second => SameButMembers agree first second ∨
    first = left ∧ second = right, ?_, Or.inr ⟨rfl, rfl⟩⟩
  rintro first second (same | ⟨rfl, rfl⟩)
  · exact ⟨same.looksAlike.imp fun _ _ => Or.inl, same.agrees⟩
  · exact ⟨looks.imp fun _ _ => Or.inl, related⟩

theorem refl (related : ∀ value, agree value value) (value : Value) :
    SameButMembers agree value value := by
  refine ⟨Eq, ?_, rfl⟩
  rintro first second rfl
  refine ⟨?_, related first⟩
  constructor <;> first | rfl | skip
  · exact .of_refl (fun _ => rfl) _
  · exact .of_refl (.of_refl fun _ => rfl) _
  · exact .of_refl (fun elements => List.forall₂_refl elements) _
  · exact .of_refl (fun mapping => ⟨rfl, List.forall₂_same.mpr fun _ _ => ⟨rfl, rfl⟩⟩) _

/-- Objects of one type that show the same of themselves but for what their members are. -/
theorem object (related : ∀ value, agree value value) (fullName : String)
    (exposure : Exposure Value) {members : Option (List (Member Value))}
    (pair : agree (.object fullName exposure)
      (.object fullName { exposure with members := members })) :
    SameButMembers agree (.object fullName exposure)
      (.object fullName { exposure with members := members }) := by
  have looks : LooksAlike (SameButMembers agree) (.object fullName exposure)
      (.object fullName exposure) := (refl related _).looksAlike
  exact of_looksAlike { looks with } pair

/-- Collections of one type whose elements differ in nothing but members. -/
theorem collection (related : ∀ value, agree value value) (fullName : String)
    (brackets : Brackets) {lefts rights : List Value}
    (elements : List.Forall₂ (SameButMembers agree) lefts rights)
    (pair : agree (.collection fullName brackets lefts)
      (.collection fullName brackets rights)) :
    SameButMembers agree (.collection fullName brackets lefts)
      (.collection fullName brackets rights) := by
  have looks : LooksAlike (SameButMembers agree) (.collection fullName brackets lefts)
      (.collection fullName brackets lefts) := (refl related _).looksAlike
  exact of_looksAlike { looks with elements? := .some elements } pair

end SameButMembers

end Value

namespace Converter

/-- Two converters that differ in nothing but their destructuring policies. -/
structure SameButDestructuring (first second : Converter) : Prop where
  /-- They have the same limits. -/
  limits : first.limits = second.limits
  /-- The same types are registered. -/
  registered : first.registered = second.registered
  /-- The same scalar policies were added. -/
  scalarPolicies : first.scalarPolicies = second.scalarPolicies

theorem record?_form (converter : Converter) (objects : Objects) (key : Value → Scalar)
    (value : Value) (fill : Request → Tree) :
    ((converter.formLayerBy objects .default key value).map fill).merged.tree.record? = none := by
  rcases formLayerBy_cases key value with
    ⟨entries, form⟩ | ⟨entries, form⟩ | ⟨elements, form⟩ | ⟨other, -⟩ | ⟨content, form⟩
  · rw [form]; rfl
  · rw [form]; rfl
  · rw [form]; rfl
  · exact absurd other Mode.noConfusion
  · rw [form]; rfl

/-- Without added scalar policies the default mode asks nothing of the policies but the scalar that
a value has of its own. -/
theorem byPolicy_default {converter : Converter} (unasked : converter.scalarPolicies = [])
    (objects : Objects) (nested : Mode → Value → Logged Tree) (value : Value)
    (otherwise : Unit → Logged Tree) :
    converter.byPolicy objects nested .default value otherwise =
      match converter.claim? .default value with
      | some scalar => pure (.scalar scalar)
      | none => otherwise () := by
  unfold byPolicy claim?
  rcases value.optional? with _ | _ | content
  · exact byScalar_eq objects nested unasked value otherwise
  · rfl
  · exact byScalar_eq objects nested unasked value otherwise

section Alike

variable {first second : Converter} (same : first.SameButDestructuring second)

include same

theorem typedScalar?_of_alike {left right : Value}
    (alike : Value.SameButMembers (Value.ShownAlike first.registered) left right) :
    first.typedScalar? left = second.typedScalar? right := by
  rw [typedScalar?, typedScalar?, alike.looksAlike.builtIn?, alike.looksAlike.type,
    ← same.registered]
  cases looked : RegisteredType.find? right.type first.registered with
  | none => rfl
  | some candidate =>
    obtain ⟨listed, type⟩ := RegisteredType.mem_of_find? looked
    have made := alike.agrees.construct candidate listed
      (type.trans alike.looksAlike.type.symm)
    rw [Option.bind_some, Option.bind_some, made]

theorem ownScalar?_of_alike {left right : Value}
    (alike : Value.SameButMembers (Value.ShownAlike first.registered) left right) :
    first.ownScalar? left = second.ownScalar? right := by
  induction left using Value.content_induction generalizing right with
  | step left _ present =>
    have content : first.contentScalar? left = second.contentScalar? right := by
      have possible := alike.looksAlike.optional?
      rw [contentScalar?, contentScalar?]
      generalize left.optional? = held at possible present ⊢
      generalize right.optional? = other at possible ⊢
      cases possible with
      | none => rfl
      | some inner =>
        cases inner with
        | none => rfl
        | some contents => exact present _ rfl contents
    rw [ownScalar?_eq, ownScalar?_eq, content, scalarAround?, scalarAround?,
      typedScalar?_of_alike same alike, alike.looksAlike.constant?, alike.looksAlike.bytes?]

theorem claim?_of_alike {left right : Value}
    (alike : Value.SameButMembers (Value.ShownAlike first.registered) left right) :
    first.claim? .default left = second.claim? .default right := by
  have own := ownScalar?_of_alike same alike
  have possible := alike.looksAlike.optional?
  rw [claim?, claim?, presentClaim?, presentClaim?, own]
  generalize left.optional? = held at possible ⊢
  generalize right.optional? = other at possible ⊢
  cases possible with
  | none => rfl
  | some inner => cases inner <;> rfl

theorem keyScalar_of_alike {left right : Value}
    (alike : Value.SameButMembers (Value.ShownAlike first.registered) left right) :
    first.keyScalar left = second.keyScalar right := by
  rw [keyScalar, keyScalar, ownScalar?_of_alike same alike, alike.agrees.display]

theorem kept_forall₂ {Item : Type} {related : Item → Item → Prop} {lefts rights : List Item}
    (agree : List.Forall₂ related lefts rights) :
    List.Forall₂ related (first.kept lefts) (second.kept rights) := by
  rw [kept_congr (collectionCount_congr same.limits), kept, kept]
  cases second.collectionCount with
  | none => exact agree
  | some count => exact List.forall₂_take count agree

section Level

variable (unasked : first.scalarPolicies = []) (objects others : Objects)
  {nested otherNested : Mode → Value → Logged Tree}
  (below : ∀ left right, Value.SameButMembers (Value.ShownAlike first.registered) left right →
    nested .default left = otherNested .default right)

include unasked below

theorem ofMapping_of_alike {left right : MappingView Value}
    (alike : Value.AlikeMappings
      (Value.SameButMembers (Value.ShownAlike first.registered)) left right) :
    first.ofMapping objects nested .default left =
      second.ofMapping others otherNested .default right := by
  have alsoUnasked : second.scalarPolicies = [] := same.scalarPolicies ▸ unasked
  have entries := kept_forall₂ same alike.2
  rw [ofMapping, ofMapping, alike.1]
  split
  · rw [Logged.traverse_forall₂ (entries.imp ?_)]
    rintro ⟨key, content⟩ ⟨otherKey, otherContent⟩ ⟨keys, contents⟩
    simp only [keyOf_eq objects nested unasked, keyOf_eq others otherNested alsoUnasked,
      keyScalar_of_alike same keys, below _ _ contents]
  · rw [Logged.traverse_forall₂ (entries.imp ?_)]
    rintro ⟨key, content⟩ ⟨otherKey, otherContent⟩ ⟨keys, contents⟩
    simp only [below _ _ keys, below _ _ contents]

theorem byForm_of_alike {left right : Value}
    (alike : Value.SameButMembers (Value.ShownAlike first.registered) left right) :
    first.byForm objects nested .default left =
      second.byForm others otherNested .default right := by
  have mapped := alike.looksAlike.mapping?
  have listed := alike.looksAlike.elements?
  unfold byForm
  rw [alike.agrees.display]
  generalize left.mapping? = mapping at mapped ⊢
  generalize right.mapping? = otherMapping at mapped ⊢
  cases mapped with
  | some mappings =>
    exact ofMapping_of_alike same unasked objects others below mappings
  | none =>
    generalize left.elements? = elements at listed ⊢
    generalize right.elements? = otherElements at listed ⊢
    cases listed with
    | some lists =>
      have trees := Logged.traverse_forall₂ ((kept_forall₂ same lists).imp below)
      simp only [trees]
    | none => rfl

/-- A level makes the same of values that look alike, if it is given the same for the values inside
of them. -/
theorem level_of_alike {left right : Value}
    (alike : Value.SameButMembers (Value.ShownAlike first.registered) left right) :
    first.level objects nested .default left =
      second.level others otherNested .default right := by
  induction left using Value.content_induction generalizing right with
  | step left wrapped present =>
    have wraps := alike.looksAlike.wrapped?
    rw [level_eq, level_eq]
    generalize left.wrapped? = holding at wraps wrapped ⊢
    generalize right.wrapped? = otherHolding at wraps ⊢
    cases wraps with
    | some contents => exact wrapped _ rfl contents
    | none =>
      simp only [byPolicy_default unasked, byPolicy_default (same.scalarPolicies ▸ unasked),
        claim?_of_alike same alike]
      cases second.claim? .default right with
      | some scalar => rfl
      | none =>
        have possible := alike.looksAlike.optional?
        have forms := byForm_of_alike same unasked objects others below alike
        generalize left.optional? = held at possible present ⊢
        generalize right.optional? = other at possible ⊢
        cases possible with
        | none => exact forms
        | some inner =>
          cases inner with
          | none => exact forms
          | some contents => exact present _ rfl contents

end Level

theorem nested_of_alike (unasked : first.scalarPolicies = []) (objects others : Objects)
    (levels : Nat) {left right : Value}
    (alike : Value.SameButMembers (Value.ShownAlike first.registered) left right) :
    first.nested objects levels .default left = second.nested others levels .default right := by
  induction levels generalizing left right with
  | zero =>
    have looks := alike.looksAlike
    rw [nested, nested, flattened, flattened, depth_congr same.limits, looks.typeName,
      stringified_congr (textLength_congr same.limits), stringified, stringified,
      alike.agrees.display]
  | succ levels induction =>
    exact level_of_alike same unasked objects others (fun _ _ => induction) alike

end Alike

/-- An object of these members. -/
def account (members : List (Member Value)) : Value :=
  .object "Account"
    { typeName := "Account", text := "Account(1)", debug := "Account(1)", members := some members }

/-- A list with an object of these members. -/
def accounts (members : List (Member Value)) : Value :=
  .collection "Vec" .square [account members]

/-- A password behind a member. -/
def password : Member Value :=
  ⟨"Password", .field (.text .owned "hunter2")⟩

/-- A converter with a registered type and with destructuring policies. -/
def disclosing (policies : List DestructuringPolicy) : Converter where
  limits := {}
  valid := Limits.valid_default
  registered := [.verbatim (.named "Token")]
  scalarPolicies := []
  destructuringPolicies := policies

/-- A destructuring policy tells how many members an object has. -/
def counting : DestructuringPolicy := fun value _ =>
  pure (value.members?.map fun members => .record (some "Members")
    [("Count", .text (String.ofList (Digits.decimal members.length)))])

theorem sameButMembers_account {agree : Value → Value → Prop}
    (related : ∀ value, agree value value) {members others : List (Member Value)}
    (pair : agree (account members) (account others)) :
    Value.SameButMembers agree (account members) (account others) :=
  .object related "Account" _ pair

theorem shownAlike_disclosing {policies : List DestructuringPolicy} {left right : Value}
    (display : left.display = right.display) (other : left.type ≠ .named "Token") :
    Value.ShownAlike (disclosing policies).registered left right := by
  refine ⟨display, fun candidate listed same => ?_⟩
  obtain rfl := List.mem_singleton.mp listed
  exact absurd same.symm other

/-- A converter with a registration that looks behind the first member of an object. -/
def revealing : Converter where
  limits := {}
  valid := Limits.valid_default
  registered := [.withConstructor (.named "Account") fun value =>
    (value.members?.bind List.head?).bind fun member =>
      match member.read with
      | .value content => content.builtIn?
      | _ => none]
  scalarPolicies := []
  destructuringPolicies := []

end Converter

end LogTree
