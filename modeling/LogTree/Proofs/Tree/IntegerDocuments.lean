import LogTree.Proofs.Json.Reading
import LogTree.Tree.Document
import Mathlib.Algebra.Group.Int.Defs
import Mathlib.Tactic.Tauto

/-!
# Integers as JSON

An integer that 64 bits hold is a JSON number, and any other one is a JSON string of its digits. The
type of the integer makes a difference in one case only: an integer of the signed type of 128 bits
that 64 bits hold without a sign, but not with one, is a string nevertheless.
-/

namespace LogTree

namespace Integer

/-- The integer is of the signed type of 128 bits, and 64 bits hold it only without a sign. -/
def LacksSign (integer : Integer) : Prop :=
  integer.type = .int .bits128 ∧ 2 ^ 63 ≤ integer.value ∧ integer.value ≤ 2 ^ 64 - 1

/-- 64 bits of the integer's own signedness hold it. -/
def IsNative (integer : Integer) : Prop :=
  (IntegerType.mk integer.type.signed .bits64).Holds integer.value

/-- 64 bits of an integer's own signedness hold it if any 64 bits do, with one exception. -/
theorem isNative_iff (integer : Integer) :
    integer.IsNative ↔
      (-2 ^ 63 ≤ integer.value ∧ integer.value ≤ 2 ^ 64 - 1) ∧ ¬ integer.LacksSign := by
  obtain ⟨⟨signed, width⟩, value, held⟩ := integer
  cases signed <;> cases width
  all_goals
    simp [IntegerType.Holds, IntegerType.least, IntegerType.greatest, IntegerType.bits,
      IntegerWidth.bits, IsNative, LacksSign] at held ⊢
    omega

/-- 64 bits hold an integer that lacks its sign. -/
theorem LacksSign.bounds {integer : Integer} (lacks : integer.LacksSign) :
    -2 ^ 63 ≤ integer.value ∧ integer.value ≤ 2 ^ 64 - 1 := by
  obtain ⟨-, least, greatest⟩ := lacks
  omega

theorem isNative_congr {first second : Integer} (same : first.value = second.value) :
    (first.IsNative ↔ second.IsNative) ↔ (first.LacksSign ↔ second.LacksSign) := by
  have one := first.isNative_iff
  have other := second.isNative_iff
  have oneBounds : first.LacksSign → _ := LacksSign.bounds
  have otherBounds : second.LacksSign → _ := LacksSign.bounds
  rw [same] at one oneBounds
  tauto

theorem isPlain_of_isDigit {character : Char} (digit : character.isDigit) :
    JsonReader.IsPlain character := by
  refine ⟨?_, ?_, ?_⟩
  · rintro rfl
    exact absurd digit (by decide)
  · rintro rfl
    exact absurd digit (by decide)
  · have least : 48 ≤ character.toNat := (Char.isDigit_iff_toNat.mp digit).1
    omega

theorem isPlain_text (integer : Integer) :
    ∀ character ∈ integer.text.toList, JsonReader.IsPlain character := by
  intro character among
  rw [text, String.toList_ofList, Digits.signed] at among
  rcases List.mem_append.mp among with sign | digit
  · split at sign
    · obtain rfl := List.mem_singleton.mp sign
      decide
    · exact absurd sign List.not_mem_nil
  · exact isPlain_of_isDigit (Digits.isDigit_of_mem_decimal digit)

/-- The integer as a tree. -/
def tree (integer : Integer) : Tree :=
  .scalar (.atom (.integer integer))

theorem stringText_text (integer : Integer) :
    Json.stringText integer.text = "\"" ++ integer.text ++ "\"" := by
  rw [← String.toList_inj, Json.toList_stringText integer.isPlain_text]
  simp

theorem json_of_isNative {integer : Integer} (native : integer.IsNative) :
    integer.tree.jsonValue = .integer integer.value ∧ integer.tree.jsonText = integer.text := by
  have written : integer.tree.document = .integer integer.value := if_pos native
  rw [Tree.jsonValue, Tree.jsonText, written]
  exact ⟨rfl, rfl⟩

theorem json_of_not_isNative {integer : Integer} (foreign : ¬ integer.IsNative) :
    integer.tree.jsonValue = .string integer.text ∧
      integer.tree.jsonText = "\"" ++ integer.text ++ "\"" := by
  have written : integer.tree.document = .string integer.text := if_neg foreign
  rw [Tree.jsonValue, Tree.jsonText, written]
  exact ⟨rfl, integer.stringText_text⟩

theorem text_ne_quoted (text : String) : text ≠ "\"" ++ text ++ "\"" := by
  intro same
  have lengths := congrArg String.length same
  simp only [String.length_append] at lengths
  have mark : "\"".length = 1 := rfl
  omega

/-- Integers of the same value are the same in JSON if both are numbers or none is. -/
theorem json_eq_iff {first second : Integer} (same : first.value = second.value) :
    (first.tree.jsonValue = second.tree.jsonValue ↔ (first.IsNative ↔ second.IsNative)) ∧
      (first.tree.jsonText = second.tree.jsonText ↔ (first.IsNative ↔ second.IsNative)) := by
  have texts : first.text = second.text := by rw [text, text, same]
  by_cases native : first.IsNative <;> by_cases other : second.IsNative
  · simp [json_of_isNative native, json_of_isNative other, native, other, same, texts]
  · simp [json_of_isNative native, json_of_not_isNative other, native, other, texts,
      text_ne_quoted]
  · simp [json_of_not_isNative native, json_of_isNative other, native, other, texts,
      (text_ne_quoted _).symm]
  · simp [json_of_not_isNative native, json_of_not_isNative other, native, other, texts]

end Integer

namespace Tree

/-- An integer that 64 bits hold is a JSON number, whether it has a sign or not, unless it is of the
signed type of 128 bits and 64 bits hold it only without a sign. Every other integer is the JSON
string of its decimal digits. So integers of two types that have the same value are the same in JSON
exactly if the exception concerns both or neither of them. -/
theorem json_integer (integer : Integer) :
    ((-2 ^ 63 ≤ integer.value ∧ integer.value ≤ 2 ^ 64 - 1) ∧ ¬ integer.LacksSign →
      integer.tree.jsonValue = .integer integer.value ∧ integer.tree.jsonText = integer.text) ∧
    (¬ ((-2 ^ 63 ≤ integer.value ∧ integer.value ≤ 2 ^ 64 - 1) ∧ ¬ integer.LacksSign) →
      integer.tree.jsonValue = .string integer.text ∧
        integer.tree.jsonText = "\"" ++ integer.text ++ "\"") ∧
    ∀ other : Integer, integer.value = other.value →
      (integer.tree.jsonValue = other.tree.jsonValue ↔ (integer.LacksSign ↔ other.LacksSign)) ∧
      (integer.tree.jsonText = other.tree.jsonText ↔ (integer.LacksSign ↔ other.LacksSign)) := by
  refine ⟨fun held => ?_, fun apart => ?_, fun other same => ?_⟩
  · exact Integer.json_of_isNative (integer.isNative_iff.mpr held)
  · exact Integer.json_of_not_isNative (mt integer.isNative_iff.mp apart)
  · rw [← Integer.isNative_congr same]
    exact Integer.json_eq_iff same

/-- The greatest integer of 64 bits as one of 128 bits without a sign, and an integer of 128 bits
with a sign that is a string for this reason only. -/
theorem json_integer_greatest :
    let greatest : Integer := ⟨.nat .bits128, 2 ^ 64 - 1, by decide⟩
    let signed : Integer := ⟨.int .bits128, 2 ^ 63, by decide⟩
    let unsigned : Integer := ⟨.nat .bits64, 2 ^ 63, by decide⟩
    ((-2 ^ 63 ≤ greatest.value ∧ greatest.value ≤ 2 ^ 64 - 1) ∧ ¬ greatest.LacksSign) ∧
    greatest.tree.jsonValue = .integer 18446744073709551615 ∧
    ¬ ((-2 ^ 63 ≤ signed.value ∧ signed.value ≤ 2 ^ 64 - 1) ∧ ¬ signed.LacksSign) ∧
    signed.tree.jsonText = "\"9223372036854775808\"" ∧
    signed.value = unsigned.value ∧
    signed.tree.jsonText ≠ unsigned.tree.jsonText := by
  intro greatest signed unsigned
  have held : (-2 ^ 63 ≤ greatest.value ∧ greatest.value ≤ 2 ^ 64 - 1) ∧
      ¬ greatest.LacksSign :=
    ⟨⟨by decide, by decide⟩, fun lacks => absurd lacks.1 (by decide)⟩
  have lacks : signed.LacksSign := ⟨rfl, by decide, by decide⟩
  have apart : ¬ ((-2 ^ 63 ≤ signed.value ∧ signed.value ≤ 2 ^ 64 - 1) ∧
      ¬ signed.LacksSign) := fun held => held.2 lacks
  have complete : ¬ unsigned.LacksSign := fun lacks => absurd lacks.1 (by decide)
  obtain ⟨-, quoted, alike⟩ := json_integer signed
  refine ⟨held, ((json_integer greatest).1 held).1, apart, (quoted apart).2.trans (by decide),
    rfl, ?_⟩
  rw [Ne, (alike unsigned rfl).2]
  exact fun both => complete (both.mp lacks)

/-- An integer that 64 bits hold without a sign is a string, since its type has one. -/
theorem not_forall_json_integer :
    ¬ ∀ integer : Integer, -2 ^ 63 ≤ integer.value ∧ integer.value ≤ 2 ^ 64 - 1 →
      integer.tree.jsonText = integer.text := by
  intro native
  have number := native ⟨.int .bits128, 2 ^ 63, by decide⟩ ⟨by decide, by decide⟩
  exact absurd number (by decide)

end Tree

end LogTree
