import LogTree.Capture.Property
import LogTree.Proofs.Capture.Claim
import LogTree.Proofs.Entries

/-!
# Runs of captures

A capture writes a tree under a name, in the place of what was captured under that name before. A
run of captures whose names are all good therefore leaves the entries that the pairs of names and
trees leave when they are written in order. A blank name ends the run for good.
-/

namespace LogTree

namespace CapturedProperties

variable (captured : CapturedProperties)

/-- The names in order. -/
def names : List String :=
  captured.properties.map (·.name)

theorem names_eq : captured.names = captured.entries.map (·.1) := by
  rw [names, entries, List.map_map]
  rfl

/-- Adding a property is writing its tree under its name. -/
theorem entries_add (property : Property) :
    (captured.add property).entries =
      Entries.insert property.name property.tree captured.entries := by
  obtain ⟨properties⟩ := captured
  simp only [add, entries]
  induction properties with
  | nil => rfl
  | cons existing rest induction =>
    rw [put, List.map_cons, Entries.insert]
    by_cases same : existing.name = property.name
    · rw [if_pos same, if_pos (beq_of_eq same), same]
      rfl
    · rw [if_neg same, if_neg (by simpa using same), List.map_cons, induction]

theorem get?_eq_find? (name : String) :
    captured.get? name = Entries.find? name captured.entries := by
  rw [get?, Entries.find?_eq, entries, List.find?_map, Option.map_map]
  rfl

/-- Properties of different names are the members of their JSON value. -/
theorem jsonValue_of_nodup (distinct : captured.names.Nodup) :
    captured.jsonValue = .object (captured.properties.map fun property =>
      (property.name, property.tree.jsonValue)) := by
  have apart : Entries.Distinct (captured.properties.map fun property =>
      (property.name, property.tree.jsonValue)) := by
    rw [names, List.nodup_iff_pairwise_ne, List.pairwise_map] at distinct
    exact List.pairwise_map.mpr (distinct.imp beq_false_of_ne)
  rw [jsonValue, Property.jsonValue, Entries.ofList_of_distinct apart]

end CapturedProperties

namespace CaptureRun

/-- The name and the tree that a step captures. -/
def pairOf (run : CaptureRun) (step : CaptureStep) : String × Tree :=
  (step.name, (run.converter.convert run.objects step.mode step.value).value)

variable {run : CaptureRun} {captured : CapturedProperties}

theorem outcome_capture_of_blank (going : run.outcome = .ok captured) {step : CaptureStep}
    (blank : isBlank step.name = true) :
    (run.capture step).value.outcome = .error (.invalidPropertyName step.name) := by
  have refused (tree : Tree) :
      Property.make step.name tree = .error (.invalidPropertyName step.name) := by
    rw [Property.make, dif_neg (by rw [blank]; exact Bool.noConfusion)]
  simp [capture, going, refused]

/-- A capture under a good name writes the tree of the value under the name. -/
theorem capture_of_named (going : run.outcome = .ok captured) {step : CaptureStep}
    (named : isBlank step.name = false) :
    ∃ next : CapturedProperties,
      (run.capture step).value = { run with outcome := .ok next } ∧
        next.entries =
          Entries.insert (run.pairOf step).1 (run.pairOf step).2 captured.entries := by
  refine ⟨captured.add ⟨step.name, (run.pairOf step).2, named⟩, ?_,
    captured.entries_add ⟨step.name, (run.pairOf step).2, named⟩⟩
  simp [capture, going, Property.make, named, pairOf]

/-- After an error nothing is captured any more. -/
theorem captureAll_of_error {error : CaptureError} (failed : run.outcome = .error error)
    (steps : List CaptureStep) : run.captureAll steps = pure run := by
  induction steps with
  | nil => rfl
  | cons step steps induction => rw [captureAll, capture, failed, pure_bind, induction]

/-- The first blank name ends the run. -/
theorem outcome_captureAll_of_blank (going : run.outcome = .ok captured)
    {steps : List CaptureStep} {step : CaptureStep}
    (blank : (steps.find? fun step => isBlank step.name) = some step) :
    (run.captureAll steps).value.outcome = .error (.invalidPropertyName step.name) := by
  induction steps generalizing run captured with
  | nil => exact absurd blank (Option.some_ne_none step).symm
  | cons first steps induction =>
    rw [captureAll, Logged.value_bind]
    cases named : isBlank first.name with
    | true =>
      obtain rfl : first = step := by simpa [List.find?_cons, named] using blank
      have ended := outcome_capture_of_blank going named
      rw [captureAll_of_error ended, Logged.value_pure, ended]
    | false =>
      obtain ⟨next, continued, -⟩ := capture_of_named going named
      rw [continued]
      exact induction rfl (by simpa [List.find?_cons, named] using blank)

/-- A run under good names writes the trees of all values under their names. -/
theorem captureAll_of_named (going : run.outcome = .ok captured) {steps : List CaptureStep}
    (named : ∀ step ∈ steps, isBlank step.name = false) :
    ∃ last : CapturedProperties,
      (run.captureAll steps).value.outcome = .ok last ∧
        last.entries = Entries.insertAll (steps.map run.pairOf) captured.entries := by
  induction steps generalizing run captured with
  | nil => exact ⟨captured, going, rfl⟩
  | cons first steps induction =>
    obtain ⟨here, later⟩ := List.forall_mem_cons.mp named
    obtain ⟨next, continued, written⟩ := capture_of_named going here
    have still : ({ run with outcome := .ok next } : CaptureRun).outcome = .ok next := rfl
    obtain ⟨last, ended, entries⟩ := induction still later
    refine ⟨last, ?_, ?_⟩
    · rw [captureAll, Logged.value_bind, continued]
      exact ended
    · rw [entries, written]
      rfl

/-- A run of captures ends with the error of its first blank name. If there is none, it ends with
properties of different names in the order in which the names were captured first. A name gives the
tree of the last value that was captured under it, and the JSON value of the properties has the
names for its members, in the same order, each with the JSON value of its tree. -/
theorem outcome_captureAll (converter : Converter) (objects : Objects)
    (steps : List CaptureStep) :
    (∀ step, (steps.find? fun step => isBlank step.name) = some step →
      (captureAll { converter, objects } steps).value.outcome =
        .error (.invalidPropertyName step.name)) ∧
    ((∀ step ∈ steps, isBlank step.name = false) →
      ∃ captured : CapturedProperties,
        (captureAll { converter, objects } steps).value.outcome = .ok captured ∧
        captured.names.Nodup ∧
        captured.names = (steps.map (·.name)).eraseDups ∧
        (∀ name, captured.get? name =
          (steps.findRev? fun step => step.name = name).map fun step =>
            (converter.convert objects step.mode step.value).value) ∧
        captured.jsonValue = .object (captured.properties.map fun property =>
          (property.name, property.tree.jsonValue))) := by
  refine ⟨fun step blank => outcome_captureAll_of_blank rfl blank, fun named => ?_⟩
  have fresh : ({ converter, objects } : CaptureRun).outcome = .ok {} := rfl
  obtain ⟨captured, ended, entries⟩ := captureAll_of_named fresh named
  have written : captured.entries =
      Entries.ofList (steps.map (pairOf { converter, objects })) := entries
  have distinct : captured.names.Nodup := by
    rw [captured.names_eq, written]
    exact Entries.nodup_ofList _
  refine ⟨captured, ended, distinct, ?_, fun name => ?_, captured.jsonValue_of_nodup distinct⟩
  · rw [captured.names_eq, written, Entries.keys_ofList, List.map_map]
    rfl
  · rw [captured.get?_eq_find?, written, Entries.find?_ofList, Entries.find?_eq,
      List.findRev?_eq_find?_reverse, ← List.map_reverse, List.find?_map, Option.map_map]
    rfl

/-- A name that is captured twice keeps its place and gives its last tree; a blank name ends the run
whatever else is captured. -/
theorem outcome_captureAll_repeated :
    (∀ step ∈ ([⟨"Id", .text .owned "7", .default⟩, ⟨"Owner", .unit, .destructure⟩,
        ⟨"Id", .unit, .stringify⟩] : List CaptureStep), isBlank step.name = false) ∧
      (∃ captured : CapturedProperties,
        (captureAll { converter := .ofLimits {} (by decide), objects := fun _ => .unit }
          [⟨"Id", .text .owned "7", .default⟩, ⟨"Owner", .unit, .destructure⟩,
            ⟨"Id", .unit, .stringify⟩]).value.outcome = .ok captured ∧
        captured.names = ["Id", "Owner"] ∧ captured.get? "Id" = some (.text "null")) ∧
      (captureAll { converter := .ofLimits {} (by decide), objects := fun _ => .unit }
        [⟨"Id", .unit, .default⟩, ⟨" ", .unit, .default⟩, ⟨"", .unit, .default⟩]).value.outcome =
          .error (.invalidPropertyName " ") := by
  have named : ∀ step ∈ ([⟨"Id", .text .owned "7", .default⟩, ⟨"Owner", .unit, .destructure⟩,
      ⟨"Id", .unit, .stringify⟩] : List CaptureStep), isBlank step.name = false := by
    simp only [List.forall_mem_cons]
    exact ⟨by decide, by decide, by decide, fun _ absent => absurd absent List.not_mem_nil⟩
  obtain ⟨captured, ended, -, names, found, -⟩ :=
    (outcome_captureAll (.ofLimits {} (by decide)) (fun _ => .unit) _).2 named
  refine ⟨named, ⟨captured, ended, names, found "Id"⟩, ?_⟩
  exact (outcome_captureAll (.ofLimits {} (by decide)) (fun _ => .unit) _).1
    ⟨" ", .unit, .default⟩ rfl

end CaptureRun

end LogTree
