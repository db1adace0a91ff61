import LogTree.Capture.SelfLog
import LogTree.Proofs.Capture.Members

/-!
# Notices of a conversion

A conversion goes through a value depth first. It meets the values that are handed on, with the
number of levels that are left to them, and the members of the objects that are taken apart. Whoever
is met has at most one thing to say: a value without a level left, and a member that is left out or
cannot be read. Without added policies the notices of a conversion are what is said on the way, in
order, and the log that they are written to has no part in the tree.
-/

namespace LogTree

/-- What a conversion meets on its way. -/
inductive Encounter where
  /-- A value, with the number of levels that may be taken apart from there. -/
  | handed (levels : Nat) (content : Value)
  /-- A member of an object that is taken apart. -/
  | member (owner : Value) (member : Member Value)

namespace Converter

variable (converter : Converter) (objects : Objects) (mode : Mode)

/-- The value that a member hands on: a member that is left out is not read. -/
def handedOn? (member : Member Value) : Option Value :=
  if member.isCaptured then
    match member.read with
    | .value content => some content
    | .link index => some (objects index)
    | _ => none
  else none

/-- What is met inside of a value that is converted by its form, the values there being walked
through by `walk`. -/
def encountersWithin (walk : Value → List Encounter) (value : Value) : List Encounter :=
  match value.mapping? with
  | some mapping =>
    (converter.kept mapping.entries).flatMap fun entry =>
      (if mapping.key.isDictionaryKey then [] else walk entry.1) ++ walk entry.2
  | none =>
    match value.elements? with
    | some elements => (converter.kept elements).flatMap walk
    | none =>
      match mode, value.members? with
      | .destructure, some members =>
        members.flatMap fun member =>
          .member value member :: (handedOn? objects member).toList.flatMap walk
      | _, _ => []

/-- What is met from a value on, with a number of levels that may be taken apart. -/
def itinerary : (levels : Nat) → Value → List Encounter
  | 0, value => [.handed 0 value]
  | levels + 1, value =>
    .handed (levels + 1) value ::
      match converter.settle mode value with
      | .scalar _ => []
      | .form inner => converter.encountersWithin objects mode (itinerary levels) inner

/-- What is said of an encounter. -/
def notice? : Encounter → Option Notice
  | .handed 0 content => some (.depthReached converter.depth content.typeName)
  | .handed (_ + 1) _ => none
  | .member owner member =>
    if member.isIndexer then some (.indexerSkipped owner.typeName member.name)
    else if isBlank member.name then some (.namelessSkipped owner.typeName)
    else match member.read with
      | .failed error => some (.accessorFailed owner.typeName member.name error.message)
      | .interrupted cause => some (.accessorFailed owner.typeName member.name cause.text)
      | _ => none

/-- What is said on the way through encounters. -/
def said (encounters : List Encounter) : List Notice :=
  encounters.filterMap converter.notice?

theorem said_flatMap {Item : Type} (walk : Item → List Encounter) (items : List Item) :
    converter.said (items.flatMap walk) = items.flatMap fun item => converter.said (walk item) :=
  List.filterMap_flatMap

theorem said_append (first second : List Encounter) :
    converter.said (first ++ second) = converter.said first ++ converter.said second :=
  List.filterMap_append

variable {converter objects mode} {nested : Mode → Value → Logged Tree}
  {walk : Value → List Encounter}

theorem notices_propertyOf
    (walked : ∀ value, (nested .destructure value).notices = converter.said (walk value))
    (owner : Value) (member : Member Value) :
    (propertyOf objects nested owner member).notices =
      converter.said (.member owner member :: (handedOn? objects member).toList.flatMap walk) := by
  unfold propertyOf handedOn? Member.isCaptured
  by_cases indexed : member.isIndexer
  · simp [indexed, said, notice?, Logged.note]
  · by_cases nameless : isBlank member.name
    · simp [indexed, nameless, said, notice?, Logged.note]
    · cases reading : member.read <;>
        simp [indexed, nameless, reading, walked, said, notice?, unreadable, Logged.note]

theorem notices_ofMapping (free : converter.PolicyFree)
    (walked : ∀ value, (nested mode value).notices = converter.said (walk value))
    (mapping : MappingView Value) :
    (converter.ofMapping objects nested mode mapping).notices =
      converter.said ((converter.kept mapping.entries).flatMap fun entry =>
        (if mapping.key.isDictionaryKey then [] else walk entry.1) ++ walk entry.2) := by
  rw [ofMapping, said_flatMap]
  split
  · simp [keyOf_eq objects nested free.scalarPolicies, walked]
  · simp [walked, said_append]

theorem notices_byForm (free : converter.PolicyFree)
    (walked : ∀ value, (nested mode value).notices = converter.said (walk value)) (value : Value) :
    (converter.byForm objects nested mode value).notices =
      converter.said (converter.encountersWithin objects mode walk value) := by
  unfold byForm encountersWithin
  cases value.mapping? with
  | some mapping => exact notices_ofMapping free walked mapping
  | none =>
    cases value.elements? with
    | some elements => simp [said_flatMap, walked]
    | none =>
      cases mode with
      | default => rfl
      | stringify => rfl
      | destructure =>
        cases value.members? with
        | none => rfl
        | some members => simp [ofMembers, said_flatMap, notices_propertyOf walked]

theorem notices_nested (free : converter.PolicyFree) (levels : Nat) (value : Value) :
    (converter.nested objects levels mode value).notices =
      converter.said (converter.itinerary objects mode levels value) := by
  induction levels generalizing value with
  | zero => rfl
  | succ levels induction =>
    rw [nested, level_eq_settle objects mode free, itinerary]
    cases converter.settle mode value with
    | scalar scalar => rfl
    | form inner => exact notices_byForm free induction inner

end Converter

namespace SelfLog

theorem writeAll_append (log : SelfLog) (front back : List String) :
    log.writeAll (front ++ back) =
      (((log.writeAll front).1.writeAll back).1,
        (log.writeAll front).2 ++ ((log.writeAll front).1.writeAll back).2) := by
  induction front generalizing log with
  | nil => rfl
  | cons message front induction => simp [writeAll, induction]

/-- Without a handler all messages are lost. -/
theorem writeAll_disabled (messages : List String) :
    (⟨none⟩ : SelfLog).writeAll messages = (⟨none⟩, []) := by
  induction messages with
  | nil => rfl
  | cons message messages induction => simp [writeAll, write, induction]

/-- A handler that does not disable the log takes all messages down in order. -/
theorem writeAll_enabled (record : String → String) (messages : List String) :
    (⟨some ⟨record, false⟩⟩ : SelfLog).writeAll messages =
      (⟨some ⟨record, false⟩⟩, messages.map record) := by
  induction messages with
  | nil => rfl
  | cons message messages induction => simp [writeAll, write, induction]

end SelfLog

namespace Logged

variable {First Second Result : Type}

/-- The result of a computation whose notices are written to a log in the end, the log afterwards,
and what was taken down. -/
def writtenTo (log : SelfLog) (computation : Logged Result) : Result × SelfLog × List String :=
  (computation.value, log.writeAll (computation.notices.map Notice.message))

theorem writtenTo_note (log : SelfLog) (notice : Notice) :
    (note notice).writtenTo log = ((), log.write notice.message) := by
  simp [writtenTo, note, SelfLog.writeAll]

theorem writtenTo_bind (log : SelfLog) (first : Logged First) (next : First → Logged Second) :
    (first >>= next).writtenTo log =
      let (result, middle, taken) := first.writtenTo log
      let (last, after, further) := (next result).writtenTo middle
      (last, after, taken ++ further) := by
  simp [writtenTo, SelfLog.writeAll_append]

/-- A way to run computations in which every notice is written as it comes: a computation goes on
with the log that the first part of it leaves. -/
structure Runner where
  /-- The result of a computation, the log afterwards, and what was taken down. -/
  run : {Result : Type} → SelfLog → Logged Result → Result × SelfLog × List String
  /-- Nothing is written for a result. -/
  run_pure : ∀ {Result : Type} (log : SelfLog) (result : Result),
    run log (pure result) = (result, log, [])
  /-- A notice is one message. -/
  run_note : ∀ (log : SelfLog) (notice : Notice),
    run log (note notice) = ((), log.write notice.message)
  /-- A later part of a computation finds the log that an earlier one leaves. -/
  run_bind : ∀ {First Second : Type} (log : SelfLog) (first : Logged First)
      (next : First → Logged Second),
    run log (first >>= next) =
      let (result, middle, taken) := run log first
      let (last, after, further) := run middle (next result)
      (last, after, taken ++ further)

/-- Notices that are collected first are written as they would have come. -/
instance : Inhabited Runner where
  default :=
    { run := fun log computation => computation.writtenTo log
      run_pure := fun _ _ => rfl
      run_note := writtenTo_note
      run_bind := writtenTo_bind }

/-- A computation is a result after its notices. -/
theorem eq_notes_bind (computation : Logged Result) :
    computation = (forM computation.notices note >>= fun _ => pure computation.value) := by
  obtain ⟨value, notices⟩ := computation
  induction notices with
  | nil => rfl
  | cons notice notices induction =>
    have later := congrArg Logged.notices induction
    exact congrArg (Logged.mk value) (congrArg (notice :: ·) later)

namespace Runner

variable (runner : Runner) (log : SelfLog)

theorem run_notes (notices : List Notice) :
    runner.run log (forM notices note) = ((), log.writeAll (notices.map Notice.message)) := by
  induction notices generalizing log with
  | nil => exact runner.run_pure log ()
  | cons notice notices induction =>
    rw [List.forM_cons, runner.run_bind, runner.run_note]
    simp only [induction, List.map_cons, SelfLog.writeAll]

/-- However notices are written as they come, it is as if they were written in the end. -/
theorem run_eq_writtenTo (computation : Logged Result) :
    runner.run log computation = computation.writtenTo log := by
  calc
    runner.run log computation =
        runner.run log (forM computation.notices note >>= fun _ => pure computation.value) :=
      congrArg (runner.run log) computation.eq_notes_bind
    _ = computation.writtenTo log := by
      simp only [runner.run_bind, runner.run_notes, runner.run_pure, List.append_nil, writtenTo]

end Runner

end Logged

namespace Converter

variable {converter : Converter}

/-- Without added policies the notices of a conversion are what is said on its way: by members that
are left out or cannot be read, and by values without a level left, in the order in which they are
met. If they are written to a log as they come, the tree is the same whatever log it is; a handler
that stays gets all messages in that order. -/
theorem notices_convert (free : converter.PolicyFree) (objects : Objects) (mode : Mode)
    (value : Value) :
    (converter.convert objects mode value).notices =
      (converter.itinerary objects mode (converter.depth + 1) value).filterMap
        converter.notice? ∧
    ∀ runner : Logged.Runner,
      (∀ log : SelfLog, (runner.run log (converter.convert objects mode value)).1 =
        (converter.convert objects mode value).value) ∧
      (runner.run ⟨none⟩ (converter.convert objects mode value)).2 = (⟨none⟩, []) ∧
      ∀ record : String → String,
        (runner.run ⟨some ⟨record, false⟩⟩ (converter.convert objects mode value)).2 =
          (⟨some ⟨record, false⟩⟩,
            ((converter.itinerary objects mode (converter.depth + 1) value).filterMap
              converter.notice?).map fun notice => record notice.message) := by
  have notices : (converter.convert objects mode value).notices =
      (converter.itinerary objects mode (converter.depth + 1) value).filterMap
        converter.notice? := notices_nested free (converter.depth + 1) value
  refine ⟨notices, fun runner => ⟨fun log => ?_, ?_, fun record => ?_⟩⟩
  · rw [runner.run_eq_writtenTo, Logged.writtenTo]
  · rw [runner.run_eq_writtenTo, Logged.writtenTo, SelfLog.writeAll_disabled]
  · rw [runner.run_eq_writtenTo, Logged.writtenTo, SelfLog.writeAll_enabled, List.map_map, notices]
    rfl

/-- An object whose members are of all kinds, two of them handing on a value for which no level is
left. -/
theorem notices_convert_fragile :
    (ofLimits { depth := 0 } (by decide)).PolicyFree ∧
      ((ofLimits { depth := 0 } (by decide)).convert (fun _ => .unit) .destructure
          (.present (fragile (.interrupted (.message "boom"))))).notices =
        [.depthReached 0 "String", .accessorFailed "Fragile" "Broken" "boom",
          .indexerSkipped "Fragile" "Item", .namelessSkipped "Fragile", .depthReached 0 "()"] := by
  have free := policyFree_ofLimits { depth := 0 } (by decide)
  refine ⟨free, (notices_convert free (fun _ => .unit) .destructure
    (.present (fragile (.interrupted (.message "boom"))))).1.trans ?_⟩
  decide

end Converter

end LogTree
