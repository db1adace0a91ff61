import LogTree.Capture.DepthLimiter
import LogTree.Proofs.Capture.Mapping
import LogTree.Proofs.Capture.Presence

/-!
# Flattening values of well-known types

A value of a well-known scalar type has the text of the scalar that it is captured as, and pointers
and presence pass that text on. So it makes no difference to the text whether such a value is
flattened, because the mode says so or because it lies too deep, or whether it is captured and
written as plain text then.
-/

namespace LogTree

/-- The text of an atom by its type is the text of the scalar that it becomes, type by type. -/
theorem Atom.text_eq_display (value : Atom) : value.text = (Scalar.atom value).display := by
  cases value with
  | bool | char | integer | single | double => rfl
  | instant | offsetDateTime | localDateTime | date | time => rfl
  | duration | timeDelta => rfl
  | uuid | ip | socket | path => rfl

namespace Value

/-- A value is another one, or holds it behind pointers and as present content. -/
inductive Encloses : Value → Value → Prop where
  /-- It is the other one. -/
  | bare (value : Value) : Encloses value value
  /-- A pointer leads to what encloses the other one. -/
  | pointer {content inner : Value} (fullName : String) : Encloses content inner →
      Encloses (pointer fullName content) inner
  /-- What encloses the other one is present. -/
  | present {content inner : Value} : Encloses content inner → Encloses (present content) inner

variable {value inner : Value} {scalar : Scalar}

theorem Encloses.display_eq (encloses : value.Encloses inner) : value.display = inner.display := by
  induction encloses with
  | bare => rfl
  | pointer _ _ induction => exact induction
  | present _ induction => exact induction

/-- A value of a well-known type has the text of its scalar. -/
theorem display_of_builtIn? (known : value.builtIn? = some scalar) :
    value.display = scalar.display := by
  cases isKeptAs_of_builtIn? known with
  | unit => rfl
  | atom content => exact content.text_eq_display
  | text => rfl

theorem wrapped?_of_builtIn? (known : value.builtIn? = some scalar) : value.wrapped? = none := by
  cases isKeptAs_of_builtIn? known <;> rfl

theorem optional?_of_builtIn? (known : value.builtIn? = some scalar) : value.optional? = none := by
  cases isKeptAs_of_builtIn? known <;> rfl

theorem behindPointers_of_builtIn? (known : value.builtIn? = some scalar) :
    value.behindPointers = value := by
  cases isKeptAs_of_builtIn? known <;> rfl

/-- What encloses a value of a well-known type is no wrapper of another kind and not absent. -/
theorem Encloses.behindPointers (encloses : value.Encloses inner)
    (known : inner.builtIn? = some scalar) :
    value.behindPointers.wrapped? = none ∧ value.behindPointers.optional? ≠ some none := by
  induction encloses with
  | bare value =>
    rw [behindPointers_of_builtIn? known, wrapped?_of_builtIn? known, optional?_of_builtIn? known]
    exact ⟨rfl, (Option.some_ne_none none).symm⟩
  | pointer _ _ induction => exact induction known
  | present => exact ⟨rfl, fun absent => absurd (Option.some.inj absent) (Option.some_ne_none _)⟩

end Value

namespace Converter

variable {converter : Converter} {value inner : Value} {scalar : Scalar}

/-- Pointers and presence are looked through until the value of a well-known type is found. -/
theorem settle_of_encloses (spared : converter.SparesWrappers)
    (unlimited : converter.textLength = none) {mode : Mode} (untouched : mode ≠ .stringify)
    (encloses : value.Encloses inner) (known : inner.builtIn? = some scalar) :
    converter.settle mode value = .scalar scalar := by
  have late (value : Value) : converter.earlyText? value = none := by
    rw [earlyText?, unlimited]
    rfl
  induction encloses with
  | bare value =>
    have own : converter.ownScalar? value = some scalar := by
      rw [ownScalar?_eq, scalarAround?, typedScalar?, known]
      rfl
    exact settle_of_ownScalar? spared (Value.wrapped?_of_builtIn? known) untouched
      (fun _ => late value) own
  | pointer _ _ induction => exact induction known
  | @present content _ rest induction =>
    have settled := induction known
    rw [settle_present spared untouched]
    cases found : converter.ownScalar? content with
    | none => exact settled
    | some other =>
      -- The scalar policies look through presence as well, so they find the same scalar.
      have bare := (rest.behindPointers known).1
      rw [behindPointers_of_ownScalar? spared found] at bare
      rw [settle_of_ownScalar? spared bare untouched (fun _ => late content) found] at settled
      exact settled

theorem settle_stringify_of_encloses (unlimited : converter.textLength = none)
    (encloses : value.Encloses inner) (known : inner.builtIn? = some scalar) :
    converter.settle .stringify value = .scalar (.text scalar.display) := by
  obtain ⟨bare, there⟩ := encloses.behindPointers known
  rw [settle_stringify bare there, cut, unlimited, encloses.display_eq,
    Value.display_of_builtIn? known]

/-- Without added types, policies and a greatest text length, a value of a well-known type behind
pointers and presence is captured as its scalar by default, and flattened it is the text of that
scalar, at any depth and by any limiter past its maximum. -/
theorem flattened_eq_display (free : converter.PolicyFree)
    (unregistered : converter.registered = []) (unlimited : converter.textLength = none)
    (objects : Objects) (encloses : value.Encloses inner)
    (known : inner.builtIn? = some scalar) :
    (∀ depth,
      (converter.createAt objects depth .default value).value = .scalar scalar ∧
        (converter.createAt objects depth .stringify value).value = .text scalar.display) ∧
    ∀ (limiter : DepthLimiter) (mode : Mode), limiter.converter = converter →
      limiter.maximum < limiter.current →
        ((limiter.factory objects).create (some value) mode).value = .text scalar.display := by
  refine ⟨fun depth => ⟨?_, ?_⟩, ?_⟩
  · have settled : converter.settle .default value = .scalar scalar :=
      settle_of_encloses (sparesWrappers_of_unregistered unregistered) unlimited Mode.noConfusion
        encloses known
    exact value_answer_of_settle free objects settled (converter.depth + 1 - depth)
  · have settled := settle_stringify_of_encloses unlimited encloses known
    exact value_answer_of_settle free objects settled (converter.depth + 1 - depth)
  · rintro limiter mode rfl deep
    change (limiter.nested objects mode value).value = _
    rw [DepthLimiter.nested, if_pos deep, flattened, Logged.value_bind, Logged.value_pure,
      stringified, cut, unlimited, encloses.display_eq, Value.display_of_builtIn? known]

/-- A negative zero behind a pointer in a present value, with a depth limit that it exceeds. -/
theorem flattened_eq_display_zero :
    (ofLimits {} (by decide)).PolicyFree ∧ (ofLimits {} (by decide)).registered = [] ∧
      (ofLimits {} (by decide)).textLength = none ∧
      (Value.present (.pointer "Box" (.atom (.double 0x8000000000000000)))).Encloses
        (.atom (.double 0x8000000000000000)) ∧
      ((ofLimits {} (by decide)).convert (fun _ => .unit) .default
          (.present (.pointer "Box" (.atom (.double 0x8000000000000000))))).value =
        .scalar (.atom (.double 0x8000000000000000)) ∧
      ((ofLimits {} (by decide)).convert (fun _ => .unit) .stringify
          (.present (.pointer "Box" (.atom (.double 0x8000000000000000))))).value = .text "-0" ∧
      (((⟨ofLimits {} (by decide), 2, 1⟩ : DepthLimiter).factory (fun _ => .unit)).create
          (some (.present (.pointer "Box" (.atom (.double 0x8000000000000000)))))
          .destructure).value = .text "-0" := by
  have encloses : (Value.present (.pointer "Box" (.atom (.double 0x8000000000000000)))).Encloses
      (.atom (.double 0x8000000000000000)) := .present (.pointer "Box" (.bare _))
  have shown : (Scalar.atom (.double 0x8000000000000000)).display = "-0" := by decide
  have free := policyFree_ofLimits {} (by decide)
  obtain ⟨everywhere, limited⟩ :=
    flattened_eq_display free rfl rfl (fun _ => .unit) encloses rfl
  obtain ⟨captured, flat⟩ := everywhere 1
  have deep := limited ⟨ofLimits {} (by decide), 2, 1⟩ .destructure rfl (by decide)
  rw [shown] at flat deep
  exact ⟨free, rfl, rfl, encloses, captured, flat, deep⟩

end Converter

end LogTree
