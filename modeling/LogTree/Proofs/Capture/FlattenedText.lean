import LogTree.Proofs.Capture.Absence
import LogTree.Proofs.Capture.TextLength

/-!
# Text in place of a value

A value becomes a text if the mode says so, or if it is given to a depth limiter past its maximum.
The mode looks through transparent wrappers and keeps absent values as nothing; the limiter takes
every value as it is. In both cases the text is cut to the greatest length, if there is one, and
nothing that was registered or added has a say.
-/

namespace LogTree

/-- What is shown of a text where texts have a greatest length, or none. -/
inductive ShownAs : Option Nat → String → String → Prop where
  /-- Without a greatest length the text is shown. -/
  | unlimited (text : String) : ShownAs none text text
  /-- A text that is not too long is shown. -/
  | short {length : Nat} {text : String} : text.length ≤ length → ShownAs (some length) text text
  /-- Of a longer text all characters but one that there is room for are shown, and an ellipsis,
  which takes up the room that is left. -/
  | long {length : Nat} {text front : String} : length < text.length →
      front.toList = text.toList.take (length - 1) → (front ++ "…").length = length →
      ShownAs (some length) text (front ++ "…")

namespace Value

/-- What a value is behind all transparent wrappers. -/
def innermost : Value → Value
  | .pointer _ content => content.innermost
  | .object fullName exposure =>
    match exposure with
    | { wrapped := some content, .. } => content.innermost
    | _ => .object fullName exposure
  | value => value
termination_by structural value => value

theorem innermost_eq (value : Value) :
    value.innermost =
      match value.wrapped? with
      | some content => content.innermost
      | none => value := by
  cases value with
  | object fullName exposure =>
    obtain ⟨typeName, text, debug, wrapped, optional, constant, bytes, callable, descriptor,
      elements, mapping, members, custom, rank⟩ := exposure
    rcases wrapped with _ | content <;> simp only [innermost, wrapped?]
  | _ => simp only [innermost, wrapped?]

theorem isAbsent_iff (value : Value) :
    value.IsAbsent ↔ value.innermost.optional? = some none := by
  induction value using content_induction with
  | step value wrapped _ =>
    rw [innermost_eq]
    cases holds : value.wrapped? with
    | some content =>
      rw [← wrapped content holds]
      refine ⟨fun gone => ?_, fun gone => .wrapped holds gone⟩
      cases gone with
      | bare unwrapped => simp [holds] at unwrapped
      | wrapped other gone =>
        obtain rfl := Option.some.inj (holds.symm.trans other)
        exact gone
    | none =>
      refine ⟨fun gone => ?_, fun absent => .bare holds absent⟩
      cases gone with
      | bare _ absent => exact absent
      | wrapped other => simp [holds] at other

end Value

namespace Converter

variable (converter : Converter)

theorem shownAs_cut (text : String) : ShownAs converter.textLength text (converter.cut text) := by
  cases limited : converter.textLength with
  | none =>
    have whole : converter.cut text = text := by rw [cut, limited]
    rw [whole]
    exact .unlimited text
  | some length =>
    by_cases short : text.length ≤ length
    · rw [(cut_eq_self_iff limited text).mpr short]
      exact .short short
    · have room := two_le_of_textLength limited
      have shown : converter.cut text =
          String.ofList (text.toList.take (length - 1)) ++ "…" := by
        simp only [cut, limited]
        rw [if_neg short, String.ofList_append]
        rfl
      rw [shown]
      refine .long (Nat.lt_of_not_le short) String.toList_ofList ?_
      have mark : "…".length = 1 := rfl
      rw [String.length_append, String.length_ofList, List.length_take, String.length_toList, mark]
      omega

/-- A text that was cut is short enough not to be cut again. -/
theorem cut_cut (text : String) : converter.cut (converter.cut text) = converter.cut text := by
  cases limited : converter.textLength with
  | none => simp only [cut, limited]
  | some length => exact (cut_eq_self_iff limited _).mpr (length_cut_le limited text)

variable (objects : Objects)

theorem level_stringify (nested : Mode → Value → Logged Tree) {value : Value}
    (there : ¬ value.IsAbsent) :
    converter.level objects nested .stringify value =
      pure (.text (converter.cut value.innermost.display)) := by
  rw [Value.isAbsent_iff] at there
  induction value using Value.content_induction with
  | step value wrapped _ =>
    rw [Value.innermost_eq] at there ⊢
    rw [level_eq]
    cases holds : value.wrapped? with
    | some content =>
      simp only [holds] at there
      exact wrapped content holds there
    | none =>
      simp only [holds] at there
      rcases optional : value.optional? with _ | _ | content
      · simp only [byPolicy, optional]
        rfl
      · exact absurd optional there
      · simp only [byPolicy, optional]
        rfl

theorem create_of_deep (limiter : DepthLimiter) (deep : limiter.maximum < limiter.current)
    (mode : Mode) (value : Value) :
    (limiter.factory objects).create (some value) mode =
      ⟨.text (limiter.converter.cut value.display),
        [.depthReached limiter.maximum value.typeName]⟩ := by
  change limiter.nested objects mode value = _
  rw [DepthLimiter.nested, if_pos deep]
  rfl

/-- To be kept as text, a value that is not absent becomes the text that it has behind all
transparent wrappers, and past the maximum of a depth limiter a value becomes its own text. A text
that is longer than texts may be is cut to exactly that length, the last character being an
ellipsis, and a cut text is not cut again. It makes no difference which types are registered and
which policies are added. -/
theorem flattened_text (value : Value) :
    (¬ value.IsAbsent → ∀ depth, converter.createAt objects depth .stringify value =
      pure (.text (converter.cut value.innermost.display))) ∧
    (∀ (limiter : DepthLimiter) (mode : Mode), limiter.converter = converter →
      limiter.maximum < limiter.current →
        (limiter.factory objects).create (some value) mode =
          ⟨.text (converter.cut value.display),
            [.depthReached limiter.maximum value.typeName]⟩) ∧
    (∀ text, ShownAs converter.textLength text (converter.cut text) ∧
      converter.cut (converter.cut text) = converter.cut text) ∧
    ∀ (other : Converter) (others : Objects), other.textLength = converter.textLength →
      (∀ depth otherDepth, ¬ value.IsAbsent →
        other.createAt others otherDepth .stringify value =
          converter.createAt objects depth .stringify value) ∧
      ∀ (current maximum : Nat) (mode otherMode : Mode), maximum < current →
        ((⟨other, current, maximum⟩ : DepthLimiter).factory others).create (some value) otherMode =
          ((⟨converter, current, maximum⟩ : DepthLimiter).factory objects).create (some value)
            mode := by
  refine ⟨fun there depth => ?_, ?_,
    fun text => ⟨converter.shownAs_cut text, converter.cut_cut text⟩,
    fun other others lengths => ⟨fun depth otherDepth there => ?_,
      fun current maximum mode otherMode deep => ?_⟩⟩
  · exact converter.level_stringify objects _ there
  · rintro limiter mode rfl deep
    exact create_of_deep objects limiter deep mode value
  · rw [createAt, createAt, level_stringify _ _ _ there, level_stringify _ _ _ there,
      cut_congr lengths]
  · rw [create_of_deep others _ deep, create_of_deep objects _ deep, cut_congr lengths]

/-- A transparent wrapper around a present text, with a text of its own. -/
def envelope : Value :=
  .object "Envelope"
    { typeName := "Envelope"
      text := "sealed"
      debug := "sealed"
      wrapped := some (.present (.text .owned "a😀b")) }

/-- A converter that would make nothing of every value, with the least length that texts may have.
-/
def nullifier : Converter where
  limits := { textLength := some 2 }
  valid := by decide
  registered := [.withConstructor (.named "Envelope") fun _ => some .null]
  scalarPolicies := [fun _ _ => pure (some .null)]
  destructuringPolicies := [fun _ _ => pure (some .null)]

/-- The mode shows the text inside of a wrapper, and a limiter past its maximum the wrapper's own.
Both texts are one character too long or more. -/
theorem flattened_text_envelope :
    ¬ envelope.IsAbsent ∧
    nullifier.createAt (fun _ => .unit) 7 .stringify envelope = pure (.text "a…") ∧
    ((⟨nullifier, 2, 1⟩ : DepthLimiter).factory fun _ => .unit).create (some envelope)
      .destructure = ⟨.text "s…", [.depthReached 1 "Envelope"]⟩ ∧
    (ofLimits { textLength := some 2 } (by decide)).textLength = nullifier.textLength ∧
    (ofLimits { textLength := some 2 } (by decide)).createAt (fun _ => .unit) 1 .stringify
      envelope = nullifier.createAt (fun _ => .unit) 7 .stringify envelope ∧
    ((⟨ofLimits { textLength := some 2 } (by decide), 2, 1⟩ : DepthLimiter).factory
        fun _ => .unit).create (some envelope) .default =
      ((⟨nullifier, 2, 1⟩ : DepthLimiter).factory fun _ => .unit).create (some envelope)
        .destructure := by
  have there : ¬ envelope.IsAbsent := by
    rw [Value.isAbsent_iff]
    exact fun absent => absurd (Option.some.inj absent) (Option.some_ne_none _)
  obtain ⟨inside, limited, -, whatever⟩ := nullifier.flattened_text (fun _ => .unit) envelope
  have content : nullifier.cut envelope.innermost.display = "a…" := by decide
  have own : nullifier.cut envelope.display = "s…" := by decide
  have flat := inside there 7
  have deep := limited ⟨nullifier, 2, 1⟩ .destructure rfl (Nat.lt_succ_self 1)
  rw [content] at flat
  rw [own] at deep
  obtain ⟨sameText, sameLimit⟩ :=
    whatever (ofLimits { textLength := some 2 } (by decide)) (fun _ => .unit) rfl
  exact ⟨there, flat, deep, rfl, sameText 7 1 there,
    sameLimit 2 1 .destructure .default (Nat.lt_succ_self 1)⟩

end Converter

end LogTree
