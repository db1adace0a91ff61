import LogTree.Proofs.Capture.Limits
import LogTree.Proofs.Capture.Place

/-!
# Lengths of captured texts

Values are taken apart with their texts cut to a greatest length, but not all of them: a text that
is held as either kind of text, a text that stands right inside of a present value, and the text
that stands for a value without any features are kept whole. All other texts are cut, and so is what
stands for a value below the last level.
-/

namespace LogTree

namespace Converter

variable {converter : Converter}

theorem two_le_of_textLength {length : Nat} (limited : converter.textLength = some length) :
    2 ≤ length := by
  obtain ⟨limit, given, rfl⟩ := Option.map_eq_some_iff.mp limited
  exact converter.usable .textLength limit given

theorem length_cut_le {length : Nat} (limited : converter.textLength = some length)
    (text : String) : (converter.cut text).length ≤ length := by
  have room := two_le_of_textLength limited
  simp only [cut, limited]
  split
  · assumption
  · rw [String.length_ofList, List.length_append, List.length_take, List.length_singleton]
    omega

theorem cut_eq_self_iff {length : Nat} (limited : converter.textLength = some length)
    (text : String) : converter.cut text = text ↔ text.length ≤ length := by
  constructor
  · intro same
    rw [← same]
    exact length_cut_le limited text
  · intro short
    simp only [cut, limited]
    exact if_pos short

/-- A text that is captured, and whether it is cut before. -/
structure CapturedText where
  /-- The text. -/
  text : String
  /-- Whether it is cut to the greatest length. -/
  isCut : Bool

variable (converter) in
/-- What is left of a captured text. -/
def CapturedText.shown (captured : CapturedText) : String :=
  if captured.isCut then converter.cut captured.text else captured.text

variable (converter)

/-- The text that the scalar policies find in a text or right inside of present values. No text is
found inside of a value that a registered type speaks for. -/
def policyText? : Value → Option String
  | .text _ content => some content
  | .present content =>
    if (converter.typedScalar? (.present content)).isSome then none else policyText? content
  | _ => none

/-- The text that is captured of a text, which may stand behind wrappers and inside of present
values. It is cut unless the scalar policies find it first. -/
def capturedText? : Value → Option CapturedText
  | .text .either content => some ⟨content, false⟩
  | .text _ content => some ⟨content, true⟩
  | .pointer _ content => capturedText? content
  | .present content =>
    if (converter.ownScalar? (.present content)).isSome then
      (converter.policyText? (.present content)).map fun text => ⟨text, false⟩
    else capturedText? content
  | _ => none

variable {converter}

theorem ownScalar?_of_policyText? {value : Value} {text : String}
    (found : converter.policyText? value = some text) :
    converter.ownScalar? value = some (.text text) := by
  induction value using Value.content_induction with
  | step value _ present =>
    cases value with
    | text holding content =>
      obtain rfl : content = text := by simpa [policyText?] using found
      rw [ownScalar?_eq, scalarAround?, typedScalar?, Value.builtIn?_text, Option.some_or,
        Option.some_or]
    | present content =>
      rw [policyText?] at found
      split at found
      · simp at found
      · rename_i unregistered
        have inside := present content rfl found
        rw [ownScalar?_eq, scalarAround?, Option.not_isSome_iff_eq_none.mp unregistered]
        simp [contentScalar?, Value.optional?, inside]
    | _ => simp [policyText?] at found

/-- A text is captured as far as it is shown. -/
theorem settle_of_capturedText? (limited : converter.textLength.isSome) {value : Value}
    {captured : CapturedText} (found : converter.capturedText? value = some captured) :
    converter.settle .destructure value = .scalar (.text (captured.shown converter)) := by
  induction value using Value.content_induction with
  | step value wrapped present =>
    cases value with
    | text holding content =>
      cases holding with
      | either =>
        obtain rfl : ⟨content, false⟩ = captured := by simpa [capturedText?] using found
        have late : converter.earlyText? (.text .either content) = none := earlyText?_eq_none rfl
        simp [settle, claim?, presentClaim?, late, Value.optional?, ownScalar?, scalarAround?,
          typedScalar?, Settled.unlessClaimed, CapturedText.shown]
      | _ =>
        obtain rfl : ⟨content, true⟩ = captured := by simpa [capturedText?] using found
        simp [settle, claim?, presentClaim?, earlyText?, limited, Value.plainText?,
          Value.optional?, Settled.unlessClaimed, CapturedText.shown]
    | pointer fullName content =>
      rw [capturedText?] at found
      exact wrapped content rfl found
    | present content =>
      rw [settle, claim?_present Mode.noConfusion]
      rw [capturedText?] at found
      split at found
      · obtain ⟨text, whole, rfl⟩ := Option.map_eq_some_iff.mp found
        rw [ownScalar?_of_policyText? whole]
        rfl
      · rename_i unclaimed
        rw [Option.not_isSome_iff_eq_none.mp unclaimed]
        exact present content rfl found
    | _ => simp [capturedText?] at found

variable (converter) in
/-- The text that a value is captured as because it has no feature that a mode or a policy looks
for. -/
def DefaultText (value : Value) (text : String) : Prop :=
  ∃ inner, converter.settle .destructure value = .form inner ∧ inner.mapping? = none ∧
    inner.elements? = none ∧ inner.members? = none ∧ inner.display = text

variable (converter) in
/-- A value that is taken apart is captured as a text of its own or as its default text. -/
def IsTextual (value : Value) : Prop :=
  (∃ captured, converter.capturedText? value = some captured) ∨
    ∃ text, converter.DefaultText value text

variable (converter) in
/-- A value that is taken apart is captured as a text that is not cut. -/
def KeepsWhole (value : Value) (text : String) : Prop :=
  converter.capturedText? value = some ⟨text, false⟩ ∨ converter.DefaultText value text

section Answers

variable (free : converter.PolicyFree) (objects : Objects)

include free

theorem value_answer_of_settle {mode : Mode} {value : Value} {scalar : Scalar}
    (settled : converter.settle mode value = .scalar scalar) (levels : Nat) :
    (converter.answer objects mode (levels + 1) (.value value)).value = .scalar scalar := by
  rw [answer, answerBy, nested_succ_eq_run objects mode free, layer, settled]
  rfl

theorem value_answer_of_defaultText {value : Value} {text : String}
    (plain : converter.DefaultText value text) (levels : Nat) :
    (converter.answer objects .destructure (levels + 1) (.value value)).value = .text text := by
  obtain ⟨inner, settled, unmapped, unlisted, unreadable, rfl⟩ := plain
  rw [answer, answerBy, nested_succ_eq_run objects .destructure free, layer, settled]
  simp only [formLayer, unmapped, unlisted, unreadable]
  rfl

theorem value_answer_of_keepsWhole (limited : converter.textLength.isSome) {value : Value}
    {text : String} (whole : converter.KeepsWhole value text) (levels : Nat) :
    (converter.answer objects .destructure (levels + 1) (.value value)).value = .text text := by
  rcases whole with found | plain
  · exact value_answer_of_settle free objects (settle_of_capturedText? limited found) levels
  · exact value_answer_of_defaultText free objects plain levels

/-- What is captured of a textual value is a text that is cut or kept whole. -/
theorem length_le_or_keepsWhole {length : Nat} (limited : converter.textLength = some length)
    {value : Value} {text : String} {levels : Nat} (textual : converter.IsTextual value)
    (answered : (converter.answer objects .destructure (levels + 1) (.value value)).value =
      .text text) :
    text.length ≤ length ∨ converter.KeepsWhole value text := by
  rcases textual with ⟨⟨content, isCut⟩, found⟩ | ⟨content, plain⟩
  · have settled := settle_of_capturedText? (Option.isSome_of_eq_some limited) found
    rw [value_answer_of_settle free objects settled levels] at answered
    cases isCut with
    | true =>
      obtain rfl : converter.cut content = text := by
        simpa [Tree.text, CapturedText.shown] using answered
      exact Or.inl (length_cut_le limited content)
    | false =>
      obtain rfl : content = text := by simpa [Tree.text, CapturedText.shown] using answered
      exact Or.inr (Or.inl found)
  · rw [value_answer_of_defaultText free objects plain levels] at answered
    obtain rfl : content = text := by simpa [Tree.text] using answered
    exact Or.inr (Or.inr plain)

end Answers

/-- When a value is taken apart, every scalar of the captured tree is what is captured in some
place. The texts that are captured of textual values, or of any value below the last level, keep to
the greatest length exactly if those do that are kept whole. -/
theorem captured_text_short_iff (free : converter.PolicyFree) {length : Nat}
    (limited : converter.textLength = some length) (objects : Objects) (value : Value) :
    (∀ scalar, (converter.convert objects .destructure value).value.Contains (.scalar scalar) →
      ∃ left request,
        converter.Placed objects .destructure (converter.depth + 1) (.value value) left request ∧
          (converter.answer objects .destructure left request).value = .scalar scalar) ∧
    ((∀ left content text,
        converter.Placed objects .destructure (converter.depth + 1) (.value value) left
          (.value content) →
        left = 0 ∨ converter.IsTextual content →
        (converter.answer objects .destructure left (.value content)).value = .text text →
        text.length ≤ length) ↔
      ∀ left content text,
        converter.Placed objects .destructure (converter.depth + 1) (.value value) (left + 1)
          (.value content) →
        converter.KeepsWhole content text → text.length ≤ length) := by
  have limitedSome : converter.textLength.isSome := Option.isSome_of_eq_some limited
  refine ⟨fun scalar contained => exists_placed free contained, ?_, ?_⟩
  · intro short left content text placed whole
    have textual : converter.IsTextual content :=
      whole.imp (fun found => ⟨_, found⟩) fun plain => ⟨text, plain⟩
    exact short (left + 1) content text placed (Or.inr textual)
      (value_answer_of_keepsWhole free objects limitedSome whole left)
  · intro short left content text placed counted answered
    cases left with
    | zero =>
      obtain rfl : converter.cut content.display = text :=
        Scalar.text.inj (Tree.scalar.inj answered)
      exact length_cut_le limited content.display
    | succ left =>
      have textual := counted.resolve_left (Nat.succ_ne_zero left)
      rcases length_le_or_keepsWhole free objects limited textual answered with cut | whole
      · exact cut
      · exact short left content text placed whole

/-- A wrapped text inside of a present value is cut. -/
theorem captured_text_short_present :
    (ofLimits { textLength := some 5 } (by decide)).PolicyFree ∧
      (ofLimits { textLength := some 5 } (by decide)).textLength = some 5 ∧
        ∀ left content text,
          (ofLimits { textLength := some 5 } (by decide)).Placed (fun _ => .unit) .destructure 11
            (.value (.present (.pointer "Box" (.text .owned "abcdefgh")))) left (.value content) →
          left = 0 ∨ (ofLimits { textLength := some 5 } (by decide)).IsTextual content →
          ((ofLimits { textLength := some 5 } (by decide)).answer (fun _ => .unit) .destructure
            left (.value content)).value = .text text →
          text.length ≤ 5 := by
  have free := policyFree_ofLimits { textLength := some 5 } (by decide)
  have limited : (ofLimits { textLength := some 5 } (by decide)).textLength = some 5 := rfl
  have found : (ofLimits { textLength := some 5 } (by decide)).capturedText?
      (.present (.pointer "Box" (.text .owned "abcdefgh"))) = some ⟨"abcdefgh", true⟩ := rfl
  have settled := settle_of_capturedText? (Option.isSome_of_eq_some limited) found
  refine ⟨free, limited, (captured_text_short_iff free limited (fun _ => .unit) _).2.mpr ?_⟩
  rintro left content text placed whole
  obtain ⟨-, same⟩ := placed.eq_root free settled
  obtain rfl := Request.value.inj same
  rcases whole with kept | ⟨inner, form, -⟩
  · rw [found] at kept
    simp at kept
  · rw [settled] at form
    exact absurd form Settled.noConfusion

/-- A text that is held as either kind of text is longer than texts may be. -/
theorem not_forall_captured_text_short :
    ¬ ∀ (converter : Converter) (length : Nat), converter.PolicyFree →
      converter.textLength = some length → ∀ (objects : Objects) (value content : Value)
        (left : Nat) (text : String),
        converter.Placed objects .destructure (converter.depth + 1) (.value value) left
          (.value content) →
        left = 0 ∨ converter.IsTextual content →
        (converter.answer objects .destructure left (.value content)).value = .text text →
        text.length ≤ length := by
  intro short
  have found : (ofLimits { textLength := some 5 } (by decide)).capturedText?
      (.text .either "abcdefgh") = some ⟨"abcdefgh", false⟩ := rfl
  have long := short (ofLimits { textLength := some 5 } (by decide)) 5
    (policyFree_ofLimits _ (by decide)) rfl (fun _ => .unit) (.text .either "abcdefgh")
    (.text .either "abcdefgh") 11 "abcdefgh" (.root 11 _) (Or.inr (Or.inl ⟨_, found⟩)) rfl
  exact absurd long (by decide)

end Converter

end LogTree
