import LogTree.Proofs.Capture.TextLength

/-!
# Present values

A present value is captured as its content is, with two exceptions. Kept as text, a present value
whose content is absent is no absent value any more. Taken apart, a present text is kept whole where
the text alone would be cut.
-/

namespace LogTree

namespace Value

/-- What a value is behind the wrappers around it. -/
def behindPointers : Value → Value
  | .pointer _ content => content.behindPointers
  | value => value

theorem display_behindPointers (value : Value) : value.behindPointers.display = value.display := by
  induction value using content_induction with
  | step value wrapped _ =>
    cases value with
    | pointer fullName content => exact wrapped content rfl
    | _ => rfl

/-- A value is a wrapper, or there is none around it. -/
theorem behindPointers_cases (value : Value) :
    (∃ fullName content, value = .pointer fullName content) ∨ value.behindPointers = value := by
  cases value with
  | pointer fullName content => exact Or.inl ⟨fullName, content, rfl⟩
  | _ => exact Or.inr rfl

end Value

namespace Converter

variable (converter : Converter)

/-- No type of wrappers or of optional values is registered. -/
def SparesWrappers : Prop :=
  ∀ value : Value, value.wrapped?.isSome ∨ value.optional?.isSome →
    converter.typedScalar? value = none

/-- A present value is not captured as its content is. -/
def ShowsPresence (mode : Mode) (content : Value) : Prop :=
  (mode = .stringify ∧ content.behindPointers.optional? = some none) ∨
    (mode = .destructure ∧ ∃ text length, content.plainText? = some text ∧
      converter.textLength = some length ∧ length < text.length)

variable {converter}

theorem sparesWrappers_of_unregistered (unregistered : converter.registered = []) :
    converter.SparesWrappers := by
  intro value outer
  rw [typedScalar?, unregistered, Value.builtIn?_eq]
  cases value with
  | unit => simp [Value.wrapped?, Value.optional?] at outer
  | atom => simp [Value.wrapped?, Value.optional?] at outer
  | text => simp [Value.wrapped?, Value.optional?] at outer
  | _ => rfl

theorem ownScalar?_pointer (spared : converter.SparesWrappers) (fullName : String)
    (content : Value) : converter.ownScalar? (.pointer fullName content) = none := by
  rw [ownScalar?_eq, scalarAround?, spared _ (Or.inl rfl)]
  rfl

theorem ownScalar?_present (spared : converter.SparesWrappers) (content : Value) :
    converter.ownScalar? (.present content) = converter.ownScalar? content := by
  rw [ownScalar?_eq, scalarAround?, spared _ (Or.inr rfl)]
  simp [contentScalar?, Value.optional?, Value.constant?, Value.bytes?, Value.exposedBytes?]

theorem ownScalar?_of_absent (spared : converter.SparesWrappers) {value : Value}
    (absent : value.optional? = some none) : converter.ownScalar? value = some .null := by
  rw [ownScalar?_eq, scalarAround?, spared _ (Or.inr (by rw [absent]; rfl)), contentScalar?, absent]
  rfl

/-- A value for which the scalar policies have an answer is no wrapper of the library. -/
theorem behindPointers_of_ownScalar? (spared : converter.SparesWrappers) {value : Value}
    {scalar : Scalar} (found : converter.ownScalar? value = some scalar) :
    value.behindPointers = value := by
  rcases value.behindPointers_cases with ⟨fullName, content, rfl⟩ | same
  · rw [ownScalar?_pointer spared] at found
    exact absurd found (Option.some_ne_none _).symm
  · exact same

theorem settle_behindPointers (mode : Mode) (value : Value) :
    converter.settle mode value.behindPointers = converter.settle mode value := by
  induction value using Value.content_induction with
  | step value wrapped _ =>
    cases value with
    | pointer fullName content => exact wrapped content rfl
    | _ => rfl

/-- Unless a text is cut early, the answer of the scalar policies is what a value is captured as. -/
theorem settle_of_ownScalar? (spared : converter.SparesWrappers) {mode : Mode} {value : Value}
    {scalar : Scalar} (bare : value.wrapped? = none) (untouched : mode ≠ .stringify)
    (late : mode = .destructure → converter.earlyText? value = none)
    (found : converter.ownScalar? value = some scalar) :
    converter.settle mode value = .scalar scalar := by
  have claimed : converter.claim? mode value = some scalar := by
    rcases optional : value.optional? with _ | _ | content
    all_goals simp only [claim?, optional]
    · cases mode with
      | default => exact found
      | stringify => exact absurd rfl untouched
      | destructure => simp [presentClaim?, late rfl, found]
    · rw [ownScalar?_of_absent spared optional] at found
      exact found
    · cases mode with
      | default => exact found
      | stringify => exact absurd rfl untouched
      | destructure => simp [presentClaim?, late rfl, found]
  rw [settle_eq, claimed]
  simp only [bare]
  rfl

theorem settle_present (spared : converter.SparesWrappers) {mode : Mode}
    (untouched : mode ≠ .stringify) (content : Value) :
    converter.settle mode (.present content) =
      .unlessClaimed (converter.ownScalar? content) (converter.settle mode content) := by
  rw [settle, claim?_present untouched, ownScalar?_present spared]

theorem settle_stringify {value : Value} (bare : value.behindPointers.wrapped? = none)
    (there : value.behindPointers.optional? ≠ some none) :
    converter.settle .stringify value = .scalar (.text (converter.cut value.display)) := by
  rw [← settle_behindPointers, settle_eq, ← value.display_behindPointers]
  simp only [bare]
  rcases optional : value.behindPointers.optional? with _ | _ | content
  · simp [claim?, optional, presentClaim?, Settled.unlessClaimed]
  · exact absurd optional there
  · simp [claim?, optional, presentClaim?, Settled.unlessClaimed]

theorem settle_of_absent {value : Value} (mode : Mode)
    (bare : value.behindPointers.wrapped? = none)
    (gone : value.behindPointers.optional? = some none) :
    converter.settle mode value = .scalar .null := by
  rw [← settle_behindPointers, settle_eq]
  simp only [bare, gone, claim?]
  rfl

/-- A text that is held plainly is captured as it is cut, which leaves it whole if there is no
greatest length. -/
theorem settle_plainText {value : Value} {text : String} (plain : value.plainText? = some text) :
    converter.settle .destructure value = .scalar (.text (converter.cut text)) := by
  have early : converter.claim? .destructure value = some (.text (converter.cut text)) := by
    cases value with
    | text holding content =>
      cases limited : converter.textLength with
      | some length =>
        simp [claim?, presentClaim?, earlyText?, limited, plain, Value.optional?]
      | none =>
        have whole : content = text := by
          cases holding <;> simp_all [Value.plainText?]
        simp [claim?, presentClaim?, earlyText?, limited, Value.optional?, ownScalar?,
          scalarAround?, typedScalar?, cut, whole]
    | _ => simp [Value.plainText?] at plain
  rw [settle_eq, early]
  cases value with
  | text holding content => rfl
  | _ => simp [Value.plainText?] at plain

theorem ownScalar?_plainText {value : Value} {text : String}
    (plain : value.plainText? = some text) : converter.ownScalar? value = some (.text text) := by
  cases value with
  | text holding content =>
    cases holding with
    | either => simp [Value.plainText?] at plain
    | _ =>
      obtain rfl : content = text := by simpa [Value.plainText?] using plain
      rfl
  | _ => simp [Value.plainText?] at plain

/-- A present value comes down to what its content comes down to, unless its presence shows. -/
theorem settle_present_eq (spared : converter.SparesWrappers) {mode : Mode} {content : Value}
    (bare : content.behindPointers.wrapped? = none)
    (hidden : ¬ converter.ShowsPresence mode content) :
    converter.settle mode (.present content) = converter.settle mode content := by
  by_cases texts : mode = .stringify
  · subst texts
    have there : content.behindPointers.optional? ≠ some none := fun gone =>
      hidden (Or.inl ⟨rfl, gone⟩)
    rw [settle_stringify bare there]
    rfl
  · rw [settle_present spared texts]
    cases found : converter.ownScalar? content with
    | none => rfl
    | some scalar =>
      rw [behindPointers_of_ownScalar? spared found] at bare
      by_cases early : mode = .destructure ∧ ∃ text, content.plainText? = some text
      · obtain ⟨rfl, text, plain⟩ := early
        have short : converter.cut text = text := by
          cases limited : converter.textLength with
          | none => simp [cut, limited]
          | some length =>
            exact (cut_eq_self_iff limited text).mpr (Nat.not_lt.mp fun long =>
              hidden (Or.inr ⟨rfl, text, length, plain, limited, long⟩))
        rw [ownScalar?_plainText plain] at found
        rw [settle_plainText plain, short, Option.some.inj found]
        rfl
      · have late : mode = .destructure → converter.earlyText? content = none := by
          intro taken
          exact earlyText?_eq_none (Option.eq_none_iff_forall_ne_some.mpr fun text plain =>
            early ⟨taken, text, plain⟩)
        rw [settle_of_ownScalar? spared bare texts late found]
        rfl

/-- A presence that shows makes the difference between two scalars. -/
theorem settle_present_ne (spared : converter.SparesWrappers) {mode : Mode} {content : Value}
    (bare : content.behindPointers.wrapped? = none)
    (shown : converter.ShowsPresence mode content) :
    ∃ outer inner, converter.settle mode (.present content) = .scalar outer ∧
      converter.settle mode content = .scalar inner ∧ outer ≠ inner := by
  rcases shown with ⟨rfl, gone⟩ | ⟨rfl, text, length, plain, limited, long⟩
  · exact ⟨_, _, rfl, settle_of_absent .stringify bare gone, Scalar.noConfusion⟩
  · refine ⟨.text text, .text (converter.cut text), ?_, settle_plainText plain, fun same => ?_⟩
    · rw [settle_present spared (by decide), ownScalar?_plainText plain]
      rfl
    · have short := (cut_eq_self_iff limited text).mp (Scalar.text.inj same).symm
      exact absurd long (Nat.not_lt.mpr short)

/-- A present value is captured as its content is, exactly if its presence does not show; then the
same is said on the way. -/
theorem convert_present_eq_iff (free : converter.PolicyFree) (spared : converter.SparesWrappers)
    (objects : Objects) (mode : Mode) (content : Value)
    (bare : content.behindPointers.wrapped? = none) :
    ((converter.convert objects mode (.present content)).value =
        (converter.convert objects mode content).value ↔
      ¬ converter.ShowsPresence mode content) ∧
    (¬ converter.ShowsPresence mode content →
      converter.convert objects mode (.present content) =
        converter.convert objects mode content) := by
  have hidden (unseen : ¬ converter.ShowsPresence mode content) :
      converter.convert objects mode (.present content) =
        converter.convert objects mode content := by
    rw [convert, createAt, convert, createAt, level_eq_settle objects mode free,
      level_eq_settle objects mode free, settle_present_eq spared bare unseen]
  refine ⟨⟨fun same shown => ?_, fun unseen => congrArg Logged.value (hidden unseen)⟩, hidden⟩
  obtain ⟨outer, inner, present, alone, different⟩ := settle_present_ne spared bare shown
  rw [convert, createAt, convert, createAt, level_eq_settle objects mode free,
    level_eq_settle objects mode free, present, alone] at same
  exact different (Tree.scalar.inj same)

/-- A present collection is captured as the collection, also with short texts. -/
theorem convert_present_eq_collection :
    (ofLimits { textLength := some 5 } (by decide)).PolicyFree ∧
      (ofLimits { textLength := some 5 } (by decide)).SparesWrappers ∧
        (Value.collection "Vec" .square [.text .owned "abcdefgh"]).behindPointers.wrapped? = none ∧
          (ofLimits { textLength := some 5 } (by decide)).convert (fun _ => .unit) .destructure
              (.present (.collection "Vec" .square [.text .owned "abcdefgh"])) =
            (ofLimits { textLength := some 5 } (by decide)).convert (fun _ => .unit) .destructure
              (.collection "Vec" .square [.text .owned "abcdefgh"]) := by
  have free := policyFree_ofLimits { textLength := some 5 } (by decide)
  have spared : (ofLimits { textLength := some 5 } (by decide)).SparesWrappers :=
    sparesWrappers_of_unregistered rfl
  refine ⟨free, spared, rfl, (convert_present_eq_iff free spared (fun _ => .unit) .destructure _
    rfl).2 ?_⟩
  rintro (⟨texts, -⟩ | ⟨-, text, length, plain, -⟩)
  · exact absurd texts (by decide)
  · simp [Value.plainText?] at plain

/-- A present text is kept whole where the text alone is cut. -/
theorem not_forall_convert_present_eq :
    ¬ ∀ converter : Converter, converter.PolicyFree →
      ∀ (objects : Objects) (mode : Mode) (content : Value),
        (converter.convert objects mode (.present content)).value =
          (converter.convert objects mode content).value := by
  intro transparent
  have same := transparent (ofLimits { textLength := some 5 } (by decide))
    (policyFree_ofLimits _ (by decide)) (fun _ => .unit) .destructure (.text .owned "abcdefgh")
  exact absurd (Scalar.text.inj (Tree.scalar.inj same)) (by decide)

end Converter

end LogTree
