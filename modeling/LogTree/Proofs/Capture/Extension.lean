import LogTree.Proofs.Capture.Inquiry
import LogTree.Proofs.Capture.Mapping

/-!
# Extensions of converters

A converter is extended by registrations, by scalar policies that are asked last and by
destructuring policies among its own. As long as the additions decline every value that they are
asked about, the extended converter makes the same trees.
-/

namespace LogTree

/-- A list consists of the items of two others, each in its order. -/
inductive Mingled {Item : Type} : List Item → List Item → List Item → Prop where
  /-- Nothing consists of nothing and nothing. -/
  | nil : Mingled [] [] []
  /-- The next item is of the first list. -/
  | left {item : Item} {first second all : List Item} :
      Mingled first second all → Mingled (item :: first) second (item :: all)
  /-- The next item is of the second list. -/
  | right {item : Item} {first second all : List Item} :
      Mingled first second all → Mingled first (item :: second) (item :: all)

namespace Mingled

variable {Item Result : Type} {first second all : List Item}

theorem of_nil (items : List Item) : Mingled items [] items := by
  induction items with
  | nil => exact .nil
  | cons item items induction => exact .left induction

/-- Items that have no answer may be left out. -/
theorem findSome?_eq (mingled : Mingled first second all) {ask : Item → Option Result}
    (declined : ∀ item ∈ second, ask item = none) : all.findSome? ask = first.findSome? ask := by
  induction mingled with
  | nil => rfl
  | left _ induction => rw [findSome?_cons_eq_or, findSome?_cons_eq_or, induction declined]
  | right _ induction =>
    rw [findSome?_cons_eq_or, declined _ List.mem_cons_self, Option.none_or,
      induction fun item listed => declined item (List.mem_cons_of_mem _ listed)]

theorem find?_eq {registered added extended : List RegisteredType}
    (mingled : Mingled registered added extended) {type : TypeRef}
    (other : ∀ candidate ∈ added, candidate.type ≠ type) :
    RegisteredType.find? type extended = RegisteredType.find? type registered := by
  simp only [RegisteredType.find?]
  induction mingled with
  | nil => rfl
  | left _ induction =>
    rw [List.reverse_cons, List.reverse_cons, List.find?_append, List.find?_append,
      induction other]
  | @right candidate _ _ _ _ induction =>
    have different : decide (candidate.type = type) = false :=
      decide_eq_false (other candidate List.mem_cons_self)
    rw [List.reverse_cons, List.find?_append, List.find?_singleton, different,
      induction fun candidate listed => other candidate (List.mem_cons_of_mem _ listed)]
    simp

end Mingled

/-- What a converter is extended by. -/
structure Additions where
  /-- Further types whose values are scalars. -/
  registered : List RegisteredType
  /-- Scalar policies that are asked after all others. -/
  scalarPolicies : List ScalarPolicy
  /-- Further destructuring policies. -/
  destructuringPolicies : List DestructuringPolicy

/-- A converter is another one with additions. Registrations and destructuring policies may stand
anywhere among those of the other converter. -/
structure Converter.Extends (original : Converter) (additions : Additions) (extended : Converter) :
    Prop where
  /-- The limits are the same. -/
  limits : extended.limits = original.limits
  /-- Types were registered in addition. -/
  registered : Mingled original.registered additions.registered extended.registered
  /-- Scalar policies were appended. -/
  scalarPolicies : extended.scalarPolicies = original.scalarPolicies ++ additions.scalarPolicies
  /-- Destructuring policies were added. -/
  destructuringPolicies : Mingled original.destructuringPolicies additions.destructuringPolicies
    extended.destructuringPolicies
  /-- Questions are followed as far. What is answered beyond may be different. -/
  questions : extended.patience.questions = original.patience.questions

/-- A value is of no added type. -/
def Additions.Unregistered (additions : Additions) (value : Value) : Prop :=
  ∀ candidate ∈ additions.registered, candidate.type ≠ value.type

namespace Task

/-- A task has the same result in two converters, notices aside. -/
def SameIn (first second : Converter) (objects : Objects) : Task → Prop
  | convert levels mode value =>
    (first.nested objects levels mode value).value = (second.nested objects levels mode value).value
  | scalar levels within value =>
    first.scalarBy objects levels within value = second.scalarBy objects levels within value
  | substitute levels value =>
    first.treeAnswer objects (first.nested objects levels) value =
      second.treeAnswer objects (second.nested objects levels) value

/-- The value that a task of an extended converter shows to policies is of no added type, and the
added policies decline it. A question that is not followed any more is shown to no policy and so not
passed over. -/
def PassedOver (additions : Additions) (extended : Converter) (objects : Objects) : Task → Prop
  | convert _ _ _ => True
  | scalar _ 0 _ => False
  | scalar levels (within + 1) value =>
    additions.Unregistered value ∧ ∀ policy ∈ additions.scalarPolicies,
      (policy value (extended.factoryAt objects levels fun _ => within)).value = none
  | substitute levels value => ∀ policy ∈ additions.destructuringPolicies,
      (policy value (extended.factoryAt objects levels extended.allowance)).value = none

/-- The value that a task shows to scalar policies is of no added type, and the original policies
accept it. -/
def Accepted (additions : Additions) (original : Converter) (objects : Objects) : Task → Prop
  | scalar levels (within + 1) value =>
    additions.Unregistered value ∧ (original.scalarBy objects levels (within + 1) value).isSome
  | _ => False

end Task

namespace Converter.Extends

variable {original extended : Converter} {additions : Additions}
  (extension : original.Extends additions extended)

include extension

theorem textLength : extended.textLength = original.textLength :=
  textLength_congr extension.limits

theorem allowance_eq : extended.allowance = original.allowance := by
  funext value
  rw [allowance, allowance, extension.questions]

theorem typedScalar?_eq {value : Value} (unregistered : additions.Unregistered value) :
    extended.typedScalar? value = original.typedScalar? value := by
  rw [typedScalar?, typedScalar?, extension.registered.find?_eq unregistered]

end Converter.Extends

namespace Converter

section Step

variable {original extended : Converter} {additions : Additions}
  (extension : original.Extends additions extended) (objects : Objects)
  (inquiries : Inquiries original)

/-- What is asked for is the same if the tasks are. -/
theorem agree_of_sameIn {levels : Nat} {within : Value → Nat} {question : Question}
    (same : ∀ task, question.task? levels within = some task →
      task.SameIn extended original objects) :
    question.Agree (extended.factoryAt objects levels within)
      (original.factoryAt objects levels within) := by
  cases question with
  | scalar value => exact same _ rfl
  | tree value mode =>
    cases value with
    | none => rfl
    | some value => exact same _ rfl

include extension

theorem builtInScalar?_of_leads {levels within : Nat} {value : Value}
    (unregistered : additions.Unregistered value)
    (below : ∀ task, extended.Leads objects inquiries (.scalar levels (within + 1) value) task →
      task.SameIn extended original objects) :
    extended.builtInScalar? objects levels within value =
      original.builtInScalar? objects levels within value := by
  have typed := extension.typedScalar?_eq unregistered
  rw [builtInScalar?, builtInScalar?, scalarAround?, scalarAround?, typed]
  cases declined : original.typedScalar? value with
  -- Not by `rfl`, which would compare the rest of both chains by unfolding the conversions.
  | some scalar => rw [Option.some_or, Option.some_or]
  | none =>
    congr 2
    rw [ScalarPolicy.nullable, ScalarPolicy.nullable]
    rcases optional : value.optional? with _ | _ | content
    · rfl
    · rfl
    · exact below _ (.content (typed.trans declined) optional)

theorem scalarBy_of_leads {levels within : Nat} {value : Value}
    (below : ∀ task, extended.Leads objects inquiries (.scalar levels (within + 1) value) task →
      task.SameIn extended original objects)
    (undisturbed : (Task.scalar levels (within + 1) value).PassedOver additions extended objects ∨
      (Task.scalar levels (within + 1) value).Accepted additions original objects) :
    extended.scalarBy objects levels (within + 1) value =
      original.scalarBy objects levels (within + 1) value := by
  have unregistered : additions.Unregistered value := undisturbed.elim And.left And.left
  have builtIn := builtInScalar?_of_leads extension objects inquiries unregistered below
  have added : extended.addedScalar? value (extended.factoryAt objects levels fun _ => within) =
      (original.addedScalar? value (extended.factoryAt objects levels fun _ => within)).or
        (additions.scalarPolicies.findSome? fun policy =>
          (policy value (extended.factoryAt objects levels fun _ => within)).value) := by
    rw [addedScalar?, extension.scalarPolicies, List.findSome?_append, addedScalar?]
  rw [scalarBy_succ, scalarBy_succ, builtIn, added]
  cases declined : original.builtInScalar? objects levels within value with
  | some scalar => rw [Option.some_or, Option.some_or]
  | none =>
    have same := inquiries.scalar_only value (extended.factoryAt objects levels fun _ => within)
      (original.factoryAt objects levels fun _ => within)
      (by rw [factoryAt_objects, factoryAt_objects]) fun question asked =>
        agree_of_sameIn objects fun task made =>
          below task (.scalarPolicy (builtIn.trans declined) asked made)
    rw [same, Option.none_or, Option.none_or]
    rcases undisturbed with ⟨-, passed⟩ | ⟨-, accepted⟩
    · rw [List.findSome?_eq_none_iff.mpr passed, Option.or_none]
    · rw [scalarBy_succ, declined, Option.none_or] at accepted
      obtain ⟨scalar, found⟩ := Option.isSome_iff_exists.mp accepted
      rw [found, Option.some_or]

theorem treeAnswer_of_leads {levels : Nat} {value : Value}
    (below : ∀ task, extended.Leads objects inquiries (.substitute levels value) task →
      task.SameIn extended original objects)
    (passed : (Task.substitute levels value).PassedOver additions extended objects) :
    extended.treeAnswer objects (extended.nested objects levels) value =
      original.treeAnswer objects (original.nested objects levels) value := by
  have added : extended.addedTree? value (extended.factoryAt objects levels extended.allowance) =
      original.addedTree? value (extended.factoryAt objects levels extended.allowance) :=
    extension.destructuringPolicies.findSome?_eq passed
  have same := inquiries.destructuring_only value
    (extended.factoryAt objects levels extended.allowance)
    (original.factoryAt objects levels extended.allowance)
    (by rw [factoryAt_objects, factoryAt_objects]) fun question asked =>
      agree_of_sameIn objects fun task made => below task (.destructuringPolicy asked made)
  rw [treeAnswer_eq_or, treeAnswer_eq_or, ← factoryAt_allowance, ← factoryAt_allowance, added,
    same, extension.allowance_eq]

theorem claimedTree?_of_leads {levels : Nat} {mode : Mode} {value : Value}
    (bare : value.wrapped? = none)
    (below : ∀ task, extended.Leads objects inquiries (.convert (levels + 1) mode value) task →
      task.SameIn extended original objects) :
    extended.claimedTree? objects mode (extended.nested objects levels) value =
      original.claimedTree? objects mode (original.nested objects levels) value := by
  have scalars (shown : extended.Shows mode value) :
      extended.scalarAnswer objects (extended.nested objects levels) value =
        original.scalarAnswer objects (original.nested objects levels) value := by
    rw [scalarAnswer_eq, scalarAnswer_eq, ← extension.allowance_eq]
    exact below _ (.scalar shown)
  by_cases absent : value.optional? = some none
  · simp only [claimedTree?, absent]
  · have present : extended.presentTree? objects (extended.nested objects levels) value mode =
        original.presentTree? objects (original.nested objects levels) value mode := by
      cases mode with
      | default => rw [presentTree?, presentTree?, scalars ⟨bare, absent, Or.inl rfl⟩]
      | stringify => rw [presentTree?, presentTree?, stringified_congr extension.textLength]
      | destructure =>
        rw [presentTree?, presentTree?, ← earlyText?_congr extension.textLength]
        cases early : extended.earlyText? value with
        | some content => rw [Option.map_some, Option.some_or, Option.some_or]
        | none =>
          have shown : extended.Shows .destructure value := ⟨bare, absent, Or.inr ⟨rfl, early⟩⟩
          rw [scalars shown]
          cases declined : original.scalarAnswer objects (original.nested objects levels) value with
          | some scalar => simp only [Option.map_some, Option.some_or]
          | none =>
            have unscalar :
                extended.scalarBy objects levels (extended.allowance value) value = none := by
              rw [← scalarAnswer_eq, scalars shown, declined]
            have trees := below _ (.substitute shown unscalar)
            simp only [Option.map_none, Option.none_or]
            exact trees
    unfold claimedTree?
    rcases optional : value.optional? with _ | _ | content
    · exact present
    · exact absurd optional absent
    · exact present

theorem byForm_of_leads {levels : Nat} {mode : Mode} {value : Value}
    (formed : extended.LeavesToForm objects levels mode value) (certain : value.optional? = none)
    (below : ∀ task, extended.Leads objects inquiries (.convert (levels + 1) mode value) task →
      task.SameIn extended original objects) :
    (extended.byForm objects (extended.nested objects levels) mode value).value =
      (original.byForm objects (original.nested objects levels) mode value).value := by
  have layers : extended.formLayerBy objects mode
        (fun key => (extended.keyOf objects (extended.nested objects levels) key).value) value =
      original.formLayerBy objects mode
        (fun key => (original.keyOf objects (original.nested objects levels) key).value) value := by
    have counts := collectionCount_congr extension.limits
    refine formLayerBy_congr counts fun mapping mapped keyed entry kept => ?_
    have scalar : extended.scalarBy objects levels (extended.allowance entry.1) entry.1 =
        original.scalarBy objects levels (extended.allowance entry.1) entry.1 :=
      below _ (.key formed certain mapped keyed kept)
    rw [value_keyOf, value_keyOf, scalarAnswer_eq, scalarAnswer_eq, ← extension.allowance_eq,
      scalar]
  rw [value_byForm, value_byForm, ← layers, Layer.map_congr]
  intro request asked
  rw [children_formLayerBy] at asked
  cases request with
  | value content => exact below _ (.inside formed certain asked)
  | unreadable owner member message => rw [answerBy, answerBy]

theorem convert_of_leads {levels : Nat} {mode : Mode} {value : Value}
    (below : ∀ task, extended.Leads objects inquiries (.convert (levels + 1) mode value) task →
      task.SameIn extended original objects) :
    (extended.nested objects (levels + 1) mode value).value =
      (original.nested objects (levels + 1) mode value).value := by
  rw [nested, nested, value_level, value_level]
  cases holds : value.wrapped? with
  | some content => exact below _ (.wrapped holds)
  | none =>
    have claims := claimedTree?_of_leads extension objects inquiries holds below
    simp only [← claims]
    cases claimed : extended.claimedTree? objects mode (extended.nested objects levels) value with
    | some tree => simp only [Option.getD_some]
    | none =>
      have formed : extended.LeavesToForm objects levels mode value := ⟨holds, claimed⟩
      simp only [Option.getD_none]
      rcases optional : value.optional? with _ | _ | content
      · exact byForm_of_leads extension objects inquiries formed optional below
      · simp [claimedTree?, optional] at claimed
      · exact below _ (.present formed optional)

/-- A task has the same result in an extended converter if the tasks to which it leads have and the
additions leave it alone. -/
theorem sameIn_of_leads {task : Task}
    (below : ∀ other, extended.Leads objects inquiries task other →
      other.SameIn extended original objects)
    (undisturbed : task.PassedOver additions extended objects ∨
      task.Accepted additions original objects) :
    task.SameIn extended original objects := by
  cases task with
  | convert levels mode value =>
    cases levels with
    | zero =>
      simp only [Task.SameIn, nested, flattened, stringified_congr extension.textLength,
        Logged.value_bind, Logged.value_pure]
    | succ levels => exact convert_of_leads extension objects inquiries below
  | scalar levels within value =>
    cases within with
    | zero => exact undisturbed.elim False.elim False.elim
    | succ within => exact scalarBy_of_leads extension objects inquiries below undisturbed
  | substitute levels value =>
    rcases undisturbed with passed | accepted
    · exact treeAnswer_of_leads extension objects inquiries below passed
    · exact accepted.elim

/-- A task has the same result in an extended converter if the additions leave it alone and
whatever it leads to. -/
theorem sameIn_of_undisturbed {task : Task}
    (undisturbed : ∀ other,
      Relation.ReflTransGen (extended.Leads objects inquiries) task other →
        other.PassedOver additions extended objects ∨ other.Accepted additions original objects) :
    task.SameIn extended original objects := by
  induction task using Task.leads_induction extended objects inquiries with
  | step task induction =>
    refine sameIn_of_leads extension objects inquiries (fun other leads => ?_)
      (undisturbed task .refl)
    exact induction other leads fun further reached => undisturbed further (.head leads reached)

/-- An extended converter makes the same tree of a value if no value that is shown to policies on
the way is of an added type and the added policies decline all of them, every question being
followed. It keeps the scalar of a value that the original policies accept, whatever appended
policies make of the value itself, if on the way they decline whatever the original policies do not
accept. The scalar of a value of a well-known type is never another one. -/
theorem extension_conservative :
    (∀ (mode : Mode) (value : Value),
      (∀ task, Relation.ReflTransGen (extended.Leads objects inquiries)
          (.convert (extended.depth + 1) mode value) task →
        task.PassedOver additions extended objects) →
      (extended.convert objects mode value).value = (original.convert objects mode value).value) ∧
    (∀ (levels : Nat) (value : Value) (scalar : Scalar),
      additions.Unregistered value →
      original.scalarAnswer objects (original.nested objects levels) value = some scalar →
      (∀ task, Relation.TransGen (extended.Leads objects inquiries)
          (.scalar levels (extended.allowance value) value) task →
        task.PassedOver additions extended objects ∨ task.Accepted additions original objects) →
      extended.scalarAnswer objects (extended.nested objects levels) value = some scalar) ∧
    ∀ (value : Value) (type : ScalarType), value.type = .scalar type →
      ∃ scalar, value.IsKeptAs scalar ∧ ∀ create,
        extended.scalarOf objects create value = pure (some scalar) ∧
          original.scalarOf objects create value = pure (some scalar) := by
  refine ⟨fun mode value passed => ?_, fun levels value scalar unregistered accepted inside => ?_,
    fun value type known => ?_⟩
  · have same := sameIn_of_undisturbed extension objects inquiries fun task reached =>
      Or.inl (passed task reached)
    rw [Task.SameIn] at same
    change (extended.nested objects (extended.depth + 1) mode value).value =
      (original.nested objects (original.depth + 1) mode value).value
    rw [same, depth_congr extension.limits]
  · rw [scalarAnswer_eq, ← extension.allowance_eq] at accepted
    have same : (Task.scalar levels (extended.allowance value) value).SameIn extended original
        objects := by
      refine sameIn_of_undisturbed extension objects inquiries fun task reached => ?_
      rcases Relation.reflTransGen_iff_eq_or_transGen.mp reached with rfl | further
      · exact Or.inr ⟨unregistered, Option.isSome_of_eq_some accepted⟩
      · exact inside task further
    rw [scalarAnswer_eq, ← accepted]
    exact same
  · obtain ⟨scalar, kept⟩ := Value.exists_isKeptAs known
    exact ⟨scalar, kept, fun create =>
      ⟨scalarOf_of_builtIn? extended kept.builtIn?_eq objects create,
        scalarOf_of_builtIn? original kept.builtIn?_eq objects create⟩⟩

end Step

/-- Additions that claim every value without members, and all values of a type. -/
def memberless : Additions where
  registered := [.verbatim (.named "Token")]
  scalarPolicies := [fun value _ => pure (if value.members?.isSome then none else some .null)]
  destructuringPolicies :=
    [fun value _ => pure (if value.members?.isSome then none else some .null)]

/-- A converter with nothing but these additions. -/
def withMemberless : Converter where
  limits := {}
  valid := Limits.valid_default
  registered := memberless.registered
  scalarPolicies := memberless.scalarPolicies
  destructuringPolicies := memberless.destructuringPolicies

theorem unregistered_memberless {value : Value} (other : value.type ≠ .named "Token") :
    memberless.Unregistered value := by
  intro candidate listed
  obtain rfl := List.mem_singleton.mp listed
  exact other.symm

theorem passedOver_ring {task : Task} (ring : task.value = .ring) (roomy : task.Roomy)
    (objects : Objects) : task.PassedOver memberless withMemberless objects := by
  have unregistered : memberless.Unregistered .ring := unregistered_memberless (by decide)
  cases task with
  | convert levels mode value => trivial
  | scalar levels within value =>
    obtain rfl : value = .ring := ring
    cases within with
    | zero => exact absurd roomy (Nat.not_lt_zero _)
    | succ within => exact ⟨unregistered, fun policy listed => by
        obtain rfl := List.mem_singleton.mp listed
        rfl⟩
  | substitute levels value =>
    obtain rfl : value = .ring := ring
    intro policy listed
    obtain rfl := List.mem_singleton.mp listed
    rfl

/-- The ring is declined, and a present text keeps its scalar although the added policies would
claim it. -/
theorem extension_conservative_memberless :
    (ofLimits {} (by decide)).Extends memberless withMemberless ∧
      (withMemberless.convert (fun _ => .ring) .destructure .ring).value =
        ((ofLimits {} (by decide)).convert (fun _ => .ring) .destructure .ring).value ∧
      withMemberless.scalarAnswer (fun _ => .ring) (withMemberless.nested (fun _ => .ring) 3)
        (.present (.text .owned "abc")) = some (.text "abc") ∧
      withMemberless.scalarOf (fun _ => .ring) (fun _ _ => pure .null) (.atom (.bool true)) =
        pure (some (.atom (.bool true))) := by
  have extension : (ofLimits {} (by decide)).Extends memberless withMemberless :=
    ⟨rfl, .right .nil, rfl, .right .nil, rfl⟩
  have free := policyFree_ofLimits {} (by decide)
  obtain ⟨trees, scalars, wellKnown⟩ :=
    extension_conservative extension (fun _ => .ring) (.none free)
  refine ⟨extension, trees .destructure .ring fun task reached => ?_, ?_, ?_⟩
  · exact passedOver_ring (Value.eq_ring_of_reaches (Task.reaches_of_leads_many reached))
      (Task.roomy_of_leads_many reached trivial) _
  · refine scalars 3 (.present (.text .owned "abc")) (.text "abc") ?_ rfl fun task reached => ?_
    · exact unregistered_memberless (by decide)
    · obtain ⟨first, leads, rest⟩ := Relation.TransGen.head'_iff.mp reached
      cases leads with
      | scalarPolicy _ asked => exact asked.elim
      | content _ present =>
        obtain rfl := Option.some.inj (Option.some.inj present)
        rcases Relation.ReflTransGen.cases_head rest with rfl | ⟨next, further, -⟩
        · exact Or.inr ⟨unregistered_memberless (by decide), rfl⟩
        · cases further with
          | scalarPolicy _ asked => exact asked.elim
          | content declined => contradiction
  · obtain ⟨scalar, kept, same⟩ := wellKnown (.atom (.bool true)) .bool rfl
    cases kept
    exact (same _).1

/-- A named constant that could be present. -/
def optionalConstant : Value :=
  .object "Outer"
    { typeName := "Outer"
      text := "outer"
      debug := "outer"
      optional := some (some (.object "Inner"
        { typeName := "Inner", text := "inner", debug := "inner" }))
      constant := some ⟨"Level", "Low", 1⟩ }

/-- A converter with a policy for the values of a type. -/
def withInner : Converter where
  limits := {}
  valid := Limits.valid_default
  registered := []
  scalarPolicies :=
    [fun value _ => pure (if value.typeName = "Inner" then some (.text "inner") else none)]
  destructuringPolicies := []

/-- The content of an optional value is asked for before the value counts as a named constant, so an
appended policy that claims the content changes the scalar of the value. -/
theorem not_forall_accepted_scalar_kept :
    ¬ ∀ (original extended : Converter) (additions : Additions),
      original.Extends additions extended → additions.registered = [] →
        additions.destructuringPolicies = [] →
          ∀ (objects : Objects) (levels : Nat) (value : Value) (scalar : Scalar),
            original.scalarAnswer objects (original.nested objects levels) value = some scalar →
              extended.scalarAnswer objects (extended.nested objects levels) value =
                some scalar := by
  intro kept
  have extension : (ofLimits {} (by decide)).Extends ⟨[], withInner.scalarPolicies, []⟩ withInner :=
    ⟨rfl, .nil, rfl, .nil, rfl⟩
  have constant := kept _ _ _ extension rfl rfl (fun _ => .unit) 0 optionalConstant
    (.constant ⟨"Level", "Low", 1⟩) rfl
  have text : withInner.scalarAnswer (fun _ => .unit) (withInner.nested (fun _ => .unit) 0)
      optionalConstant = some (.text "inner") := rfl
  rw [text] at constant
  exact Scalar.noConfusion (Option.some.inj constant)

end Converter

end LogTree
