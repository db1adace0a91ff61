import LogTree.Proofs.Capture.Level

/-!
# Plain data

Taking values apart makes a difference only where there is something to take apart. If no value that
can be reached has members, a signature or a description, and neither a greatest text length nor an
added destructuring policy singles a value out, the default mode and the destructuring mode agree.
-/

namespace LogTree

namespace Value

/-- A value shows no members, no signature and no description. -/
structure IsPlain (value : Value) : Prop where
  /-- It has no members. -/
  members? : value.members? = none
  /-- It is no function. -/
  callable? : value.callable? = none
  /-- It describes nothing. -/
  descriptor? : value.descriptor? = none

/-- Everything that can be reached from a value is plain. -/
def IsPlainData (objects : Objects) (value : Value) : Prop :=
  ∀ inner, Reaches objects value inner → inner.IsPlain

variable {objects : Objects} {value content : Value}

theorem IsPlainData.plain (data : value.IsPlainData objects) : value.IsPlain :=
  data value (.refl value)

theorem IsPlainData.of_holds (data : value.IsPlainData objects)
    (held : Holds objects value content) : content.IsPlainData objects :=
  fun inner reached => data inner (.head held reached)

theorem isPlainData_iff :
    value.IsPlainData objects ↔
      value.IsPlain ∧ ∀ content, Holds objects value content → content.IsPlainData objects := by
  constructor
  · exact fun data => ⟨data.plain, fun content held => data.of_holds held⟩
  · rintro ⟨plain, inside⟩ inner reached
    rcases Relation.ReflTransGen.cases_head reached with rfl | ⟨content, held, rest⟩
    · exact plain
    · exact inside content held inner rest

theorem isPlainData_text (holding : TextHolding) (content : String) :
    (text holding content).IsPlainData objects := by
  refine isPlainData_iff.mpr ⟨⟨rfl, rfl, rfl⟩, fun inner held => ?_⟩
  cases held <;> contradiction

theorem isPlainData_collection {fullName : String} {brackets : Brackets} {elements : List Value}
    (inside : ∀ element ∈ elements, element.IsPlainData objects) :
    (collection fullName brackets elements).IsPlainData objects :=
  isPlainData_iff.mpr ⟨⟨rfl, rfl, rfl⟩, fun inner held => inside inner held.mem_collection⟩

end Value

namespace Converter

variable {converter : Converter} {objects : Objects} {nested : Mode → Value → Logged Tree}

/-- A plain value of which the policies make nothing is left to what comes next in both modes. -/
theorem byPolicy_of_isPlain (unlimited : converter.textLength = none)
    (unreplaced : converter.destructuringPolicies = []) {value : Value} (plain : value.IsPlain)
    (otherwise : Unit → Logged Tree) :
    converter.byPolicy objects nested .default value otherwise =
      converter.byPolicy objects nested .destructure value otherwise := by
  have early : converter.earlyText? value = none := by rw [earlyText?, unlimited]; rfl
  have unsigned : value.callable?.or value.descriptor? = none := by
    rw [plain.callable?, plain.descriptor?]; rfl
  unfold byPolicy
  rcases value.optional? with _ | _ | content <;>
    simp only [early, byDestructuring_eq objects nested unreplaced, unsigned]

section Inside

variable {value : Value}
  (below : ∀ content, Value.Holds objects value content →
    nested .default content = nested .destructure content)

include below

theorem ofMapping_of_agree {mapping : MappingView Value} (mapped : value.mapping? = some mapping) :
    converter.ofMapping objects nested .default mapping =
      converter.ofMapping objects nested .destructure mapping := by
  have keys {key content : Value} (kept : (key, content) ∈ converter.kept mapping.entries) :
      nested .default key = nested .destructure key :=
    below _ (.key mapped (mem_of_mem_kept kept))
  have contents {key content : Value} (kept : (key, content) ∈ converter.kept mapping.entries) :
      nested .default content = nested .destructure content :=
    below _ (.entry mapped (mem_of_mem_kept kept))
  rw [ofMapping, ofMapping]
  split
  · rw [Logged.traverse_congr]
    rintro ⟨key, content⟩ kept
    simp only [contents kept]
  · rw [Logged.traverse_congr]
    rintro ⟨key, content⟩ kept
    simp only [keys kept, contents kept]

/-- Without members a form is the same in both modes, if the values inside are captured alike. -/
theorem byForm_of_agree (memberless : value.members? = none) :
    converter.byForm objects nested .default value =
      converter.byForm objects nested .destructure value := by
  unfold byForm
  cases mapped : value.mapping? with
  | some mapping => exact ofMapping_of_agree below mapped
  | none =>
    cases listed : value.elements? with
    | some elements =>
      have trees := Logged.traverse_congr fun element (kept : element ∈ converter.kept elements) =>
        below element (.element listed (mem_of_mem_kept kept))
      simp only [trees]
    | none => simp only [memberless]

end Inside

section Agreement

variable (unlimited : converter.textLength = none)
  (unreplaced : converter.destructuringPolicies = [])

include unlimited unreplaced

/-- A level makes the same of plain data in both modes, if it is given the same for plain data. -/
theorem level_of_isPlainData
    (below : ∀ content, content.IsPlainData objects →
      nested .default content = nested .destructure content)
    {value : Value} (data : value.IsPlainData objects) :
    converter.level objects nested .default value =
      converter.level objects nested .destructure value := by
  induction value using Value.content_induction with
  | step value wrapped present =>
    rw [level_eq, level_eq]
    cases holds : value.wrapped? with
    | some content => exact wrapped content holds (data.of_holds (.wrapped holds))
    | none =>
      have forms : converter.byForm objects nested .default value =
          converter.byForm objects nested .destructure value :=
        byForm_of_agree (fun content held => below content (data.of_holds held))
          data.plain.members?
      simp only [byPolicy_of_isPlain unlimited unreplaced data.plain]
      rcases optional : value.optional? with _ | _ | content
      · simp only [forms]
      · simp only [forms]
      · simp only [present content optional (data.of_holds (.present optional))]

theorem nested_of_isPlainData (levels : Nat) {value : Value} (data : value.IsPlainData objects) :
    converter.nested objects levels .default value =
      converter.nested objects levels .destructure value := by
  induction levels generalizing value with
  | zero => rfl
  | succ levels induction =>
    exact level_of_isPlainData unlimited unreplaced (fun _ inside => induction inside) data

/-- The default mode and the destructuring mode make the same of plain data. -/
theorem convert_default_eq_destructure {value : Value} (data : value.IsPlainData objects) :
    converter.convert objects .default value = converter.convert objects .destructure value :=
  nested_of_isPlainData unlimited unreplaced (converter.depth + 1) data

end Agreement

/-- A converter with a policy that makes nothing of empty collections. -/
def unfilled : Converter where
  limits := { depth := 1, collectionCount := some 2 }
  valid := by decide
  registered := [.verbatim (.named "Token")]
  scalarPolicies := [fun value _ =>
    pure (value.elements?.bind fun elements => if elements.isEmpty then some .null else none)]
  destructuringPolicies := []

theorem convert_default_eq_destructure_shelves :
    let shelves : Value := .collection "Vec" .square
      [.collection "Vec" .square [], .collection "Vec" .square [.text .owned "abc"]]
    unfilled.textLength = none ∧ unfilled.destructuringPolicies = [] ∧
      shelves.IsPlainData (fun _ => .ring) ∧
      unfilled.convert (fun _ => .ring) .default shelves =
        unfilled.convert (fun _ => .ring) .destructure shelves := by
  intro shelves
  have data : shelves.IsPlainData fun _ => .ring := by
    refine Value.isPlainData_collection fun shelf place => ?_
    simp only [List.mem_cons, List.not_mem_nil, or_false] at place
    rcases place with rfl | rfl
    · exact Value.isPlainData_collection fun _ none => absurd none List.not_mem_nil
    · refine Value.isPlainData_collection fun content place => ?_
      obtain rfl := List.mem_singleton.mp place
      exact Value.isPlainData_text .owned "abc"
  exact ⟨rfl, rfl, data, convert_default_eq_destructure rfl rfl data⟩

end Converter

end LogTree
