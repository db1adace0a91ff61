import LogTree.Proofs.Capture.Extension
import LogTree.Value.Standard

/-!
# Questions that are followed further

A conversion that follows questions further is one that follows them less far and gives other
answers beyond. So what holds of all converters, whatever they answer beyond, holds however far
questions are followed; and a conversion in which every question was followed does not depend on how
far that was allowed.
-/

namespace LogTree

/-- The question of a task is followed. -/
def Task.Followed : Task → Prop
  | scalar _ 0 _ => False
  | _ => True

namespace Converter

/-- The converter with another patience. -/
def withPatience (converter : Converter) (patience : Patience) : Converter :=
  { converter with patience }

/-- The answers of the converter when it follows some more questions. -/
def answersWithin (converter : Converter) (more : Nat) (objects : Objects)
    (create : Option Value → Mode → Logged Tree) (value : Value) : Logged (Option Scalar) :=
  converter.scalarWithin objects create more value

section Congruence

variable {converter : Converter} {patience other : Patience} {objects : Objects}
  (scalars : (converter.withPatience patience).scalarOf objects =
    (converter.withPatience other).scalarOf objects)

include scalars

theorem factory_withPatience_congr (nested : Mode → Value → Logged Tree) :
    (converter.withPatience patience).factory objects nested =
      (converter.withPatience other).factory objects nested := by
  rw [factory, factory, scalars]

theorem byForm_withPatience_congr (nested : Mode → Value → Logged Tree) (mode : Mode)
    (value : Value) :
    (converter.withPatience patience).byForm objects nested mode value =
      (converter.withPatience other).byForm objects nested mode value := by
  have keys : (converter.withPatience patience).keyOf objects nested =
      (converter.withPatience other).keyOf objects nested := by
    funext key
    rw [keyOf, keyOf, factory_withPatience_congr scalars]
  have mappings : (converter.withPatience patience).ofMapping objects nested mode =
      (converter.withPatience other).ofMapping objects nested mode := by
    funext mapping
    rw [ofMapping, ofMapping, keys]
    rfl
  unfold byForm
  rw [mappings]
  rfl

theorem byPolicy_withPatience_congr (nested : Mode → Value → Logged Tree) (mode : Mode)
    (value : Value) :
    (converter.withPatience patience).byPolicy objects nested mode value =
      (converter.withPatience other).byPolicy objects nested mode value := by
  have factories := factory_withPatience_congr scalars nested
  have answers : (converter.withPatience patience).byScalar objects nested value =
      (converter.withPatience other).byScalar objects nested value := by
    funext otherwise
    rw [byScalar, byScalar, factories]
  have trees : (converter.withPatience patience).byDestructuring objects nested value =
      (converter.withPatience other).byDestructuring objects nested value := by
    funext otherwise
    rw [byDestructuring, byDestructuring, factories]
    rfl
  unfold byPolicy
  rw [answers, trees]
  rfl

theorem level_withPatience_congr (nested : Mode → Value → Logged Tree) (mode : Mode)
    (value : Value) :
    (converter.withPatience patience).level objects nested mode value =
      (converter.withPatience other).level objects nested mode value := by
  induction value using Value.content_induction with
  | step value wrapped present =>
    rw [level_eq, level_eq, byPolicy_withPatience_congr scalars]
    cases holds : value.wrapped? with
    | some content => exact wrapped content holds
    | none =>
      refine congrArg ((converter.withPatience other).byPolicy objects nested mode value)
        (funext fun _ => ?_)
      rcases optional : value.optional? with _ | _ | content
      · exact byForm_withPatience_congr scalars nested mode value
      · exact byForm_withPatience_congr scalars nested mode value
      · exact present content optional

theorem nested_withPatience_congr (levels : Nat) :
    (converter.withPatience patience).nested objects levels =
      (converter.withPatience other).nested objects levels := by
  induction levels with
  | zero => rfl
  | succ levels induction =>
    funext mode value
    rw [nested, nested, induction]
    exact level_withPatience_congr scalars _ mode value

end Congruence

variable (converter : Converter) (objects : Objects)

/-- Following more questions is answering those beyond by following so many more. -/
theorem scalarWithin_add (questions : Nat) (create : Option Value → Mode → Logged Tree)
    (levels more : Nat) (value : Value) :
    converter.scalarWithin objects create (levels + more) value =
      (converter.withPatience ⟨questions, converter.answersWithin more⟩).scalarWithin objects create
        levels value := by
  induction levels generalizing value with
  | zero => rw [Nat.zero_add]; rfl
  | succ levels induction =>
    rw [Nat.succ_add, scalarWithin, scalarWithin, ← funext induction]
    rfl

/-- A converter that follows more questions makes what one makes that follows fewer and gives other
answers beyond. -/
theorem convert_of_more_questions (questions : Nat) {more : Nat}
    (further : converter.patience.questions = questions + more) (mode : Mode) (value : Value) :
    converter.convert objects mode value =
      (converter.withPatience ⟨questions, converter.answersWithin more⟩).convert objects mode
        value := by
  have scalars : (converter.withPatience converter.patience).scalarOf objects =
      (converter.withPatience ⟨questions, converter.answersWithin more⟩).scalarOf objects := by
    funext create value
    have room : converter.allowance value = value.height + questions + 1 + more := by
      rw [allowance, further]
      omega
    change converter.scalarWithin objects create (converter.allowance value) value = _
    rw [room]
    exact converter.scalarWithin_add objects questions create _ more value
  exact congrFun (congrFun (nested_withPatience_congr scalars (converter.depth + 1)) mode) value

variable {converter objects}

/-- What is asked is read off the inquiries alone, whatever converter they were made for. -/
theorem Leads.of_same_inquiries {first second : Converter} {own : Inquiries first}
    {other : Inquiries second} (scalar : own.scalar = other.scalar)
    (destructuring : own.destructuring = other.destructuring) {task next : Task}
    (leads : converter.Leads objects own task next) : converter.Leads objects other task next := by
  cases leads with
  | scalarPolicy declined asked made => exact .scalarPolicy declined (scalar ▸ asked) made
  | destructuringPolicy asked made => exact .destructuringPolicy (destructuring ▸ asked) made
  | wrapped holds => exact .wrapped holds
  | scalar shown => exact .scalar shown
  | substitute shown declined => exact .substitute shown declined
  | present formed optional => exact .present formed optional
  | inside formed certain asked => exact .inside formed certain asked
  | key formed certain mapped keyed kept => exact .key formed certain mapped keyed kept
  | content declined optional => exact .content declined optional

theorem passedOver_of_followed {task : Task} (followed : task.Followed) :
    task.PassedOver ⟨[], [], []⟩ converter objects := by
  cases task with
  | convert => trivial
  | scalar levels within value =>
    cases within with
    | zero => exact followed
    | succ within => exact ⟨nofun, nofun⟩
  | substitute => exact nofun

/-- A conversion in which every question is followed makes the same tree if questions are followed
further, whatever is answered beyond. -/
theorem convert_of_followed (inquiries : Inquiries converter) {mode : Mode} {value : Value}
    (followed : ∀ task, Relation.ReflTransGen (converter.Leads objects inquiries)
      (.convert (converter.depth + 1) mode value) task → task.Followed)
    {patience : Patience} (further : converter.patience.questions ≤ patience.questions) :
    ((converter.withPatience patience).convert objects mode value).value =
      (converter.convert objects mode value).value := by
  obtain ⟨more, enough⟩ := Nat.exists_eq_add_of_le further
  let beyond := (converter.withPatience patience).answersWithin more
  let fewer := converter.withPatience ⟨converter.patience.questions, beyond⟩
  have same : (converter.withPatience patience).convert objects mode value =
      fewer.convert objects mode value :=
    (converter.withPatience patience).convert_of_more_questions objects _ enough mode value
  have extension : fewer.Extends ⟨[], [], []⟩ converter :=
    ⟨rfl, .of_nil _, (List.append_nil _).symm, .of_nil _, rfl⟩
  let asked : Inquiries fewer :=
    ⟨inquiries.scalar, inquiries.scalar_only, inquiries.destructuring,
      inquiries.destructuring_only⟩
  have scalar : asked.scalar = inquiries.scalar := rfl
  have destructuring : asked.destructuring = inquiries.destructuring := rfl
  have leads (task next : Task) (step : converter.Leads objects asked task next) :
      converter.Leads objects inquiries task next :=
    step.of_same_inquiries scalar destructuring
  have passed : ∀ task, Relation.ReflTransGen (converter.Leads objects asked)
      (.convert (converter.depth + 1) mode value) task →
        task.PassedOver ⟨[], [], []⟩ converter objects := fun task reached =>
    passedOver_of_followed (followed task (Relation.ReflTransGen.mono leads _ _ reached))
  have tasks := sameIn_of_undisturbed extension objects asked fun task reached =>
    Or.inl (passed task reached)
  rw [same]
  exact tasks.symm

/-- A value that holds a number in a place that only its own type can look into. -/
def cell : Value :=
  .described "MaybeCell" "MaybeCell(7)" "MaybeCell(7)"

/-- A converter with a policy for such values, which asks for the scalar of the number. -/
def cellOpener : Converter where
  limits := {}
  valid := Limits.valid_default
  registered := []
  scalarPolicies := [fun value factory =>
    if value.typeName = "MaybeCell" then
      factory.scalar (.ofByte 7)
    else pure none]
  destructuringPolicies := []

/-- A policy gets an answer about a value that does not stand inside of its own one. -/
example : (cellOpener.convert (fun _ => .unit) .default cell).value =
    .scalar (.atom (.integer (Value.byteInteger 7))) :=
  rfl

end Converter

end LogTree
