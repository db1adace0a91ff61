import LogTree.Proofs.Capture.Step
import Mathlib.Data.Prod.Lex
import Mathlib.Logic.Relation

/-!
# What a conversion asks for

A level of a conversion asks for the scalar of its value, for what the destructuring policies make
of it and for the trees of the values inside. A policy in turn may ask its factory for scalars and
trees. Each of these is a task. Tasks lead to tasks that are lower, so what holds of a task if it
holds of those to which the task leads holds of all tasks.
-/

namespace LogTree

/-- What a policy can ask its factory for. -/
inductive Question where
  /-- The scalar of a value. -/
  | scalar (value : Value)
  /-- The tree of a value, which may be absent. -/
  | tree (value : Option Value) (mode : Mode)

/-- Two factories answer a question alike. Policies do not see notices. -/
def Question.Agree (first second : Factory) : Question → Prop
  | scalar value => (first.scalar value).value = (second.scalar value).value
  | tree value mode => (first.create value mode).value = (second.create value mode).value

/-- An answer about a value depends on the factory only by what the factory answers to what is
asked. -/
def AsksOnly {Result : Type} (answer : Value → Factory → Option Result)
    (asked : Value → Factory → Question → Prop) : Prop :=
  ∀ value first second, first.objects = second.objects →
    (∀ question, asked value first question → question.Agree first second) →
      answer value first = answer value second

/-- What the added policies of a converter ask for. -/
structure Inquiries (converter : Converter) where
  /-- What the scalar policies ask about a value. -/
  scalar : Value → Factory → Question → Prop
  /-- The scalar policies ask for nothing else. -/
  scalar_only : AsksOnly converter.addedScalar? scalar
  /-- What the destructuring policies ask about a value. -/
  destructuring : Value → Factory → Question → Prop
  /-- The destructuring policies ask for nothing else. -/
  destructuring_only : AsksOnly converter.addedTree? destructuring

/-- A converter without added policies asks for nothing by them. -/
def Inquiries.none {converter : Converter} (free : converter.PolicyFree) : Inquiries converter where
  scalar := fun _ _ _ => False
  scalar_only := fun value first second _ _ => by
    rw [Converter.addedScalar?, Converter.addedScalar?, free.scalarPolicies]; rfl
  destructuring := fun _ _ _ => False
  destructuring_only := fun value first second _ _ => by
    rw [Converter.addedTree?, Converter.addedTree?, free.destructuringPolicies]; rfl

/-- Something that is asked for in the course of a conversion. -/
inductive Task where
  /-- The tree of a value when so many levels are left. -/
  | convert (levels : Nat) (mode : Mode) (value : Value)
  /-- The scalar of a value when so many levels are left below, by so many questions inside of one
  another. -/
  | scalar (levels within : Nat) (value : Value)
  /-- What the destructuring policies make of a value when so many levels are left below. -/
  | substitute (levels : Nat) (value : Value)

/-- The task of a question when so many levels are left and the scalar of a value is found by so
many questions inside of one another. An absent value is no task. -/
def Question.task? (levels : Nat) (within : Value → Nat) : Question → Option Task
  | scalar value => some (.scalar levels (within value) value)
  | tree none _ => none
  | tree (some value) mode => some (.convert levels mode value)

theorem Question.task?_cases {levels : Nat} {within : Value → Nat} {question : Question}
    {task : Task} (made : question.task? levels within = some task) :
    (∃ value, task = .scalar levels (within value) value) ∨
      ∃ mode value, task = .convert levels mode value := by
  cases question with
  | scalar value => exact Or.inl ⟨value, (Option.some.inj made).symm⟩
  | tree value mode =>
    cases value with
    | none => contradiction
    | some value => exact Or.inr ⟨mode, value, (Option.some.inj made).symm⟩

namespace Converter

variable (converter : Converter) (objects : Objects)

/-- The factory of policies when so many levels are left below and the scalar of a value may be
found by so many questions inside of one another. -/
def factoryAt (levels : Nat) (within : Value → Nat) : Factory :=
  { converter.factory objects (converter.nested objects levels) with
    scalar := fun value =>
      converter.scalarWithin objects
        (converter.factory objects (converter.nested objects levels)).create (within value) value }

theorem factoryAt_objects (levels : Nat) (within : Value → Nat) :
    (converter.factoryAt objects levels within).objects = objects :=
  rfl

theorem factoryAt_allowance (levels : Nat) :
    converter.factoryAt objects levels converter.allowance =
      converter.factory objects (converter.nested objects levels) :=
  rfl

/-- The scalar of a value by so many questions inside of one another. -/
def scalarBy (levels within : Nat) (value : Value) : Option Scalar :=
  ((converter.factoryAt objects levels fun _ => within).scalar value).value

/-- A value is shown to the scalar policies: it is neither a wrapper nor absent, and the mode leaves
it to them. -/
def Shows (mode : Mode) (value : Value) : Prop :=
  value.wrapped? = none ∧ value.optional? ≠ some none ∧
    (mode = .default ∨ mode = .destructure ∧ converter.earlyText? value = none)

/-- The scalar that the built-in policies make of a value. -/
def builtInScalar? (levels within : Nat) (value : Value) : Option Scalar :=
  converter.scalarAround? value
    (ScalarPolicy.nullable value (converter.factoryAt objects levels fun _ => within)).value

/-- A value is converted by its form or by that of its content. -/
def LeavesToForm (levels : Nat) (mode : Mode) (value : Value) : Prop :=
  value.wrapped? = none ∧
    converter.claimedTree? objects mode (converter.nested objects levels) value = none

theorem scalarBy_succ (levels within : Nat) (value : Value) :
    converter.scalarBy objects levels (within + 1) value =
      (converter.builtInScalar? objects levels within value).or
        (converter.addedScalar? value (converter.factoryAt objects levels fun _ => within)) := by
  change (Logged.firstAnswer
    (fun policy => policy value (converter.factoryAt objects levels fun _ => within))
    converter.allScalarPolicies).value = _
  rw [Logged.value_firstAnswer, allScalarPolicies, List.findSome?_append, builtInScalar?,
    addedScalar?]
  congr 1
  simp only [ScalarPolicy.builtIn, findSome?_cons_eq_or, List.findSome?_nil, wellKnown_eq,
    Logged.value_pure, Option.or_none]
  rfl

theorem scalarAnswer_eq (levels : Nat) (value : Value) :
    converter.scalarAnswer objects (converter.nested objects levels) value =
      converter.scalarBy objects levels (converter.allowance value) value :=
  rfl

/-- A task asks for another one. The questions of added policies are as `inquiries` says. -/
inductive Leads {original : Converter} (inquiries : Inquiries original) : Task → Task → Prop where
  /-- A wrapper becomes what its content becomes. -/
  | wrapped {levels : Nat} {mode : Mode} {value content : Value} :
      value.wrapped? = some content →
      Leads inquiries (.convert (levels + 1) mode value) (.convert (levels + 1) mode content)
  /-- A value is shown to the scalar policies. -/
  | scalar {levels : Nat} {mode : Mode} {value : Value} : converter.Shows mode value →
      Leads inquiries (.convert (levels + 1) mode value)
        (.scalar levels (converter.allowance value) value)
  /-- A value without a scalar that is to be taken apart is shown to the destructuring policies. -/
  | substitute {levels : Nat} {value : Value} : converter.Shows .destructure value →
      converter.scalarBy objects levels (converter.allowance value) value = none →
      Leads inquiries (.convert (levels + 1) .destructure value) (.substitute levels value)
  /-- A present value that is not claimed becomes what its content becomes. -/
  | present {levels : Nat} {mode : Mode} {value content : Value} :
      converter.LeavesToForm objects levels mode value →
      value.optional? = some (some content) →
      Leads inquiries (.convert (levels + 1) mode value) (.convert (levels + 1) mode content)
  /-- A value inside of one that is converted by its form. -/
  | inside {levels : Nat} {mode : Mode} {value content : Value} :
      converter.LeavesToForm objects levels mode value → value.optional? = none →
      Request.value content ∈ (converter.formLayer objects mode value).children →
      Leads inquiries (.convert (levels + 1) mode value) (.convert levels mode content)
  /-- A key of a dictionary. -/
  | key {levels : Nat} {mode : Mode} {value : Value} {mapping : MappingView Value}
      {entry : Value × Value} :
      converter.LeavesToForm objects levels mode value → value.optional? = none →
      value.mapping? = some mapping → mapping.key.isDictionaryKey = true →
      entry ∈ converter.kept mapping.entries →
      Leads inquiries (.convert (levels + 1) mode value)
        (.scalar levels (converter.allowance entry.1) entry.1)
  /-- A present value whose type does not make it a scalar has the scalar of its content. -/
  | content {levels within : Nat} {value content : Value} :
      converter.typedScalar? value = none → value.optional? = some (some content) →
      Leads inquiries (.scalar levels (within + 1) value) (.scalar levels within content)
  /-- An added scalar policy asks a question about a value that no built-in policy accepts. -/
  | scalarPolicy {levels within : Nat} {value : Value} {question : Question} {task : Task} :
      converter.builtInScalar? objects levels within value = none →
      inquiries.scalar value (converter.factoryAt objects levels fun _ => within) question →
      question.task? levels (fun _ => within) = some task →
      Leads inquiries (.scalar levels (within + 1) value) task
  /-- An added destructuring policy asks a question. -/
  | destructuringPolicy {levels : Nat} {value : Value} {question : Question} {task : Task} :
      inquiries.destructuring value (converter.factoryAt objects levels converter.allowance)
        question →
      question.task? levels converter.allowance = some task →
      Leads inquiries (.substitute levels value) task

end Converter

namespace Task

/-- Place of a task in an order in which tasks lead to lower ones only: trees of few levels come
first, then the scalars that are asked for with so many levels left below, then what the
destructuring policies make. -/
def rank : Task → ℕ ×ₗ ℕ
  | convert levels _ value => toLex (3 * levels, value.height)
  | scalar levels within _ => toLex (3 * levels + 1, within)
  | substitute levels _ => toLex (3 * levels + 2, 0)

variable {converter original : Converter} {objects : Objects} {inquiries : Inquiries original}

theorem rank_lt_of_leads {task other : Task}
    (leads : converter.Leads objects inquiries task other) : other.rank < task.rank := by
  cases leads with
  | wrapped holds =>
    exact Prod.Lex.toLex_lt_toLex.mpr (Or.inr ⟨rfl, Value.height_lt_of_wrapped holds⟩)
  | present _ optional =>
    exact Prod.Lex.toLex_lt_toLex.mpr (Or.inr ⟨rfl, Value.height_lt_of_present optional⟩)
  | scalarPolicy _ _ made =>
    obtain ⟨asked, rfl⟩ | ⟨mode, asked, rfl⟩ := Question.task?_cases made
    · exact Prod.Lex.toLex_lt_toLex.mpr (Or.inr ⟨rfl, Nat.lt_succ_self _⟩)
    · exact Prod.Lex.toLex_lt_toLex.mpr (Or.inl (Nat.lt_succ_self _))
  | destructuringPolicy _ made =>
    obtain ⟨asked, rfl⟩ | ⟨mode, asked, rfl⟩ := Question.task?_cases made
    · exact Prod.Lex.toLex_lt_toLex.mpr (Or.inl (Nat.lt_succ_self _))
    · exact Prod.Lex.toLex_lt_toLex.mpr (Or.inl (by simp only; omega))
  | content _ optional => exact Prod.Lex.toLex_lt_toLex.mpr (Or.inr ⟨rfl, Nat.lt_succ_self _⟩)
  | _ => exact Prod.Lex.toLex_lt_toLex.mpr (Or.inl (by simp only; omega))

/-- The value that a task is about. -/
def value : Task → Value
  | convert _ _ value => value
  | scalar _ _ value => value
  | substitute _ value => value

/-- Without added policies nothing is asked about but values that can be reached. -/
theorem reaches_of_leads {free : original.PolicyFree} {task other : Task}
    (leads : converter.Leads objects (.none free) task other) :
    Value.Reaches objects task.value other.value := by
  cases leads with
  | wrapped holds => exact .head (.wrapped holds) (.refl _)
  | scalar shown => exact .refl _
  | substitute shown declined => exact .refl _
  | present formed optional => exact .head (.present optional) (.refl _)
  | inside formed certain asked => exact .head (Converter.holds_of_mem_formLayer asked) (.refl _)
  | key formed certain mapped keyed kept =>
    exact .head (.key mapped (Converter.mem_of_mem_kept kept)) (.refl _)
  | content declined optional => exact .head (.present optional) (.refl _)
  | scalarPolicy declined asked made => exact asked.elim
  | destructuringPolicy asked made => exact asked.elim

theorem reaches_of_leads_many {free : original.PolicyFree} {task other : Task}
    (leads : Relation.ReflTransGen (converter.Leads objects (.none free)) task other) :
    Value.Reaches objects task.value other.value := by
  induction leads with
  | refl => exact .refl _
  | tail _ last induction => exact induction.trans (reaches_of_leads last)

/-- A task can follow questions about contents inside of one another as far as there are any. -/
def Roomy : Task → Prop
  | scalar _ within value => value.height < within
  | _ => True

/-- Without added policies the questions come to an end before the patience does. -/
theorem roomy_of_leads {free : original.PolicyFree} {task other : Task}
    (leads : converter.Leads objects (.none free) task other) (roomy : task.Roomy) :
    other.Roomy := by
  have enough (value : Value) : value.height < converter.allowance value :=
    Nat.lt_succ_of_le (Nat.le_add_right value.height converter.patience.questions)
  cases leads with
  | scalar => exact enough _
  | key => exact enough _
  | content _ optional =>
    exact Nat.lt_of_lt_of_le (Value.height_lt_of_present optional) (Nat.le_of_lt_succ roomy)
  | scalarPolicy _ asked => exact asked.elim
  | destructuringPolicy asked => exact asked.elim
  | _ => trivial

theorem roomy_of_leads_many {free : original.PolicyFree} {task other : Task}
    (leads : Relation.ReflTransGen (converter.Leads objects (.none free)) task other)
    (roomy : task.Roomy) : other.Roomy := by
  induction leads with
  | refl => exact roomy
  | tail _ last induction => exact roomy_of_leads last induction

/-- What holds of a task if it holds of the tasks to which it leads holds of all tasks. -/
theorem leads_induction (converter : Converter) (objects : Objects)
    (inquiries : Inquiries original) {motive : Task → Prop}
    (step : ∀ task, (∀ other, converter.Leads objects inquiries task other → motive other) →
      motive task)
    (task : Task) : motive task := by
  induction low : task.rank using WellFoundedLT.induction generalizing task with
  | ind rank induction =>
    subst low
    exact step task fun other leads => induction _ (rank_lt_of_leads leads) other rfl

end Task

end LogTree
