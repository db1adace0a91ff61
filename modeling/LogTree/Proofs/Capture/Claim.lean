import LogTree.Capture.Converter
import LogTree.Proofs.Value.Reach
import LogTree.Proofs.Value.ScalarTypes

/-!
# Values that are claimed as scalars

Without added policies no policy asks for anything but the scalar of an optional value's content,
and none has anything to say. What the policies, the mode and the length of texts make of a value is
then a function of the value alone.
-/

namespace LogTree

theorem findSome?_cons_eq_or {Item Result : Type} (ask : Item → Option Result) (item : Item)
    (items : List Item) :
    (item :: items).findSome? ask = (ask item).or (items.findSome? ask) := by
  rw [List.findSome?_cons]
  cases ask item <;> rfl

/-- Asking items that have nothing to say is looking for the first answer among theirs. -/
theorem Logged.firstAnswer_of_quiet {Item Result : Type} (ask : Item → Logged (Option Result))
    (items : List Item) (quiet : ∀ item ∈ items, (ask item).notices = []) :
    Logged.firstAnswer ask items = pure (items.findSome? fun item => (ask item).value) := by
  induction items with
  | nil => rfl
  | cons item items induction =>
    have here : ask item = pure (ask item).value :=
      Logged.ext rfl (quiet item List.mem_cons_self)
    have later := induction fun other member => quiet other (List.mem_cons_of_mem item member)
    rw [firstAnswer, here, pure_bind, findSome?_cons_eq_or]
    cases (ask item).value with
    | none => exact later
    | some result => rfl

theorem Limits.valid_default : ({} : Limits).Valid := by
  decide

namespace Converter

/-- A converter to which no policies were added. Types may be registered. -/
structure PolicyFree (converter : Converter) : Prop where
  /-- No scalar policy was added. -/
  scalarPolicies : converter.scalarPolicies = []
  /-- No destructuring policy was added. -/
  destructuringPolicies : converter.destructuringPolicies = []

/-- The converter of limits to which nothing was added. -/
def ofLimits (limits : Limits) (valid : limits.Valid) : Converter where
  limits
  valid
  registered := []
  scalarPolicies := []
  destructuringPolicies := []

theorem policyFree_ofLimits (limits : Limits) (valid : limits.Valid) :
    (ofLimits limits valid).PolicyFree :=
  ⟨rfl, rfl⟩

section Limits

variable {first second : Converter}

theorem depth_congr (same : first.limits = second.limits) : first.depth = second.depth := by
  rw [depth, depth, same]

theorem textLength_congr (same : first.limits = second.limits) :
    first.textLength = second.textLength := by
  rw [textLength, textLength, same]

theorem collectionCount_congr (same : first.limits = second.limits) :
    first.collectionCount = second.collectionCount := by
  rw [collectionCount, collectionCount, same]

theorem cut_congr (lengths : first.textLength = second.textLength) : first.cut = second.cut := by
  funext text
  rw [cut, cut, lengths]

theorem stringified_congr (lengths : first.textLength = second.textLength) (value : Value) :
    first.stringified value = second.stringified value := by
  rw [stringified, stringified, cut_congr lengths]

theorem earlyText?_congr (lengths : first.textLength = second.textLength) (value : Value) :
    first.earlyText? value = second.earlyText? value := by
  rw [earlyText?, earlyText?, cut_congr lengths, lengths]

theorem kept_congr {Item : Type} (counts : first.collectionCount = second.collectionCount)
    (items : List Item) : first.kept items = second.kept items := by
  rw [kept, kept, counts]

end Limits

variable (converter : Converter)

/-- The scalar of a value of a well-known or registered type. -/
def typedScalar? (value : Value) : Option Scalar :=
  value.builtIn?.or
    ((RegisteredType.find? value.type converter.registered).bind (·.construct value))

/-- The scalar of a value by its type, by the scalar that its content has, as a named constant, or
as a byte sequence. -/
def scalarAround? (value : Value) (content : Option Scalar) : Option Scalar :=
  (converter.typedScalar? value).or <| content.or <|
    (value.constant?.map .constant).or <|
      value.bytes?.map fun bytes => .text (ByteText.encode bytes)

/-- The scalar that the built-in policies make of a value. -/
def ownScalar? : Value → Option Scalar
  | .absent content => converter.scalarAround? (.absent content) (some .null)
  | .present content => converter.scalarAround? (.present content) (ownScalar? content)
  | .object fullName exposure =>
    match exposure with
    | { optional := some none, .. } =>
      converter.scalarAround? (.object fullName exposure) (some .null)
    | { optional := some (some content), .. } =>
      converter.scalarAround? (.object fullName exposure) (ownScalar? content)
    | _ => converter.scalarAround? (.object fullName exposure) none
  | value => converter.scalarAround? value none
termination_by structural value => value

/-- The scalar that an optional value has from its content. -/
def contentScalar? (value : Value) : Option Scalar :=
  match value.optional? with
  | none => none
  | some none => some .null
  | some (some content) => converter.ownScalar? content

theorem ownScalar?_eq (value : Value) :
    converter.ownScalar? value =
      converter.scalarAround? value (converter.contentScalar? value) := by
  cases value with
  | object fullName exposure =>
    obtain ⟨typeName, text, debug, wrapped, optional, constant, bytes, callable, descriptor,
      elements, mapping, members, custom, rank⟩ := exposure
    rcases optional with _ | _ | content <;> simp only [ownScalar?, contentScalar?, Value.optional?]
  | _ => simp only [ownScalar?, contentScalar?, Value.optional?]

theorem wellKnown_eq (value : Value) (factory : Factory) :
    ScalarPolicy.wellKnown converter.registered value factory =
      pure (converter.typedScalar? value) := by
  rw [ScalarPolicy.wellKnown_eq, typedScalar?]

/-- Whatever was registered or added, a value of a well-known type is the scalar of that type. -/
theorem scalarOf_of_builtIn? {value : Value} {scalar : Scalar}
    (known : value.builtIn? = some scalar) (objects : Objects)
    (create : Option Value → Mode → Logged Tree) :
    converter.scalarOf objects create value = pure (some scalar) := by
  have typed : converter.typedScalar? value = some scalar := by rw [typedScalar?, known]; rfl
  rw [scalarOf, allowance, scalarWithin, allScalarPolicies, ScalarPolicy.builtIn, List.cons_append,
    Logged.firstAnswer, wellKnown_eq, typed]
  rfl

variable {converter}

/-- Built-in policies ask for scalars inside of optional values only, so levels above the height of
a value make no difference. -/
theorem scalarWithin_of_height_lt (unasked : converter.scalarPolicies = []) (objects : Objects)
    (create : Option Value → Mode → Logged Tree) {levels : Nat} {value : Value}
    (low : value.height < levels) :
    converter.scalarWithin objects create levels value = pure (converter.ownScalar? value) := by
  induction levels generalizing value with
  | zero => exact absurd low (Nat.not_lt_zero _)
  | succ levels induction =>
    have nullable :
        ScalarPolicy.nullable value
            ⟨create, converter.scalarWithin objects create levels, objects⟩ =
          pure (converter.contentScalar? value) := by
      rw [ScalarPolicy.nullable, contentScalar?]
      cases possible : value.optional? with
      | none => rfl
      | some inner =>
        cases inner with
        | none => rfl
        | some content =>
          have lower := Value.height_lt_of_present possible
          exact induction (by omega)
    rw [scalarWithin, allScalarPolicies, unasked, List.append_nil, Logged.firstAnswer_of_quiet]
    · simp only [ScalarPolicy.builtIn, findSome?_cons_eq_or, List.findSome?_nil, wellKnown_eq,
        nullable, Logged.value_pure, Option.or_none]
      rw [ownScalar?_eq]
      rfl
    · intro policy member
      simp only [ScalarPolicy.builtIn, List.mem_cons, List.not_mem_nil, or_false] at member
      rcases member with rfl | rfl | rfl | rfl
      · rw [wellKnown_eq, Logged.notices_pure]
      · rw [nullable, Logged.notices_pure]
      · rfl
      · rfl

theorem scalarOf_eq (unasked : converter.scalarPolicies = []) (objects : Objects)
    (create : Option Value → Mode → Logged Tree) (value : Value) :
    converter.scalarOf objects create value = pure (converter.ownScalar? value) :=
  scalarWithin_of_height_lt unasked objects create
    (Nat.lt_succ_of_le (Nat.le_add_right value.height converter.patience.questions))

variable (converter) in
/-- The scalar that the mode or a policy makes of a value that is there. -/
def presentClaim? (value : Value) : Mode → Option Scalar
  | .default => converter.ownScalar? value
  | .stringify => some (.text (converter.cut value.display))
  | .destructure =>
    ((converter.earlyText? value).map .text).or <|
      (converter.ownScalar? value).or ((value.callable?.or value.descriptor?).map .text)

variable (converter) in
/-- The scalar that is made of a value that is no transparent wrapper, if it is not converted by its
form. -/
def claim? (mode : Mode) (value : Value) : Option Scalar :=
  match value.optional? with
  | some none => some .null
  | _ => converter.presentClaim? value mode

theorem earlyText?_eq_none {value : Value} (other : value.plainText? = none) :
    converter.earlyText? value = none := by
  rw [earlyText?, other]
  split <;> rfl

theorem claim?_present {mode : Mode} (untouched : mode ≠ .stringify) (content : Value) :
    converter.claim? mode (.present content) = converter.ownScalar? (.present content) := by
  cases mode with
  | default => rfl
  | stringify => exact absurd rfl untouched
  | destructure =>
    have late : converter.earlyText? (.present content) = none := earlyText?_eq_none rfl
    simp [claim?, presentClaim?, late, Value.optional?, Value.callable?, Value.descriptor?]

section Level

variable (objects : Objects) (nested : Mode → Value → Logged Tree)

theorem factory_scalar_eq (unasked : converter.scalarPolicies = []) (value : Value) :
    (converter.factory objects nested).scalar value = pure (converter.ownScalar? value) :=
  scalarOf_eq unasked objects _ value

theorem byScalar_eq (unasked : converter.scalarPolicies = []) (value : Value)
    (otherwise : Unit → Logged Tree) :
    converter.byScalar objects nested value otherwise =
      match converter.ownScalar? value with
      | some scalar => pure (.scalar scalar)
      | none => otherwise () := by
  rw [byScalar, factory_scalar_eq objects nested unasked]
  exact pure_bind _ _

theorem byDestructuring_eq (unreplaced : converter.destructuringPolicies = []) (value : Value)
    (otherwise : Unit → Logged Tree) :
    converter.byDestructuring objects nested value otherwise =
      match value.callable?.or value.descriptor? with
      | some content => pure (.text content)
      | none => otherwise () := by
  rw [byDestructuring, allDestructuringPolicies, unreplaced, List.nil_append,
    Logged.firstAnswer_of_quiet, pure_bind, DestructuringPolicy.builtIn]
  · simp only [findSome?_cons_eq_or, List.findSome?_nil, DestructuringPolicy.callable,
      DestructuringPolicy.descriptor, Logged.value_pure, Option.or_none]
    cases value.callable? with
    | some signature => rfl
    | none => cases value.descriptor? <;> rfl
  · intro policy member
    simp only [DestructuringPolicy.builtIn, List.mem_cons, List.not_mem_nil, or_false] at member
    rcases member with rfl | rfl <;> rfl

end Level

section Free

variable (free : converter.PolicyFree) (objects : Objects) (nested : Mode → Value → Logged Tree)

include free

/-- What a value that is there is converted to, if it is claimed. -/
private theorem byMode_eq (mode : Mode) (value : Value) (otherwise : Unit → Logged Tree) :
    (match mode with
      | .default => converter.byScalar objects nested value otherwise
      | .stringify => pure (converter.stringified value)
      | .destructure =>
        match converter.earlyText? value with
        | some content => pure (.text content)
        | none =>
          converter.byScalar objects nested value fun _ =>
            converter.byDestructuring objects nested value otherwise) =
      match converter.presentClaim? value mode with
      | some scalar => pure (.scalar scalar)
      | none => otherwise () := by
  cases mode with
  | default => exact byScalar_eq objects nested free.scalarPolicies value otherwise
  | stringify => rfl
  | destructure =>
    simp only [byScalar_eq objects nested free.scalarPolicies,
      byDestructuring_eq objects nested free.destructuringPolicies, presentClaim?]
    cases converter.earlyText? value with
    | some content => rfl
    | none =>
      cases converter.ownScalar? value with
      | some scalar => rfl
      | none => cases value.callable?.or value.descriptor? <;> rfl

theorem byPolicy_eq (mode : Mode) (value : Value) (otherwise : Unit → Logged Tree) :
    converter.byPolicy objects nested mode value otherwise =
      match converter.claim? mode value with
      | some scalar => pure (.scalar scalar)
      | none => otherwise () := by
  unfold byPolicy claim?
  rcases value.optional? with _ | _ | content
  · exact byMode_eq free objects nested mode value otherwise
  · rfl
  · exact byMode_eq free objects nested mode value otherwise

end Free

end Converter

end LogTree
