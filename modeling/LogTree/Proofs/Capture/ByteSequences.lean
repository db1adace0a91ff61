import LogTree.Proofs.Capture.Level
import LogTree.Proofs.Number.Numerals

/-!
# Byte sequences

The text of a byte sequence tells what it shows. All bytes of a short sequence are shown and can be
read back; of a long one the first bytes and the length are shown, in a text that no short sequence
has. A byte sequence is captured as its text however it is held, before its elements would be, and
limits of texts and collections make no difference.
-/

namespace LogTree

theorem Digits.decimal_injective {left right : Nat} (same : decimal left = decimal right) :
    left = right := by
  have read := congrArg (fun digits => Nat.ofDigitChars 10 digits 0) same
  simpa [decimal, Nat.ofDigitChars_ten_toDigits] using read

namespace Hex

theorem digitValue?_upperDigit {digit : Nat} (small : digit < 16) :
    digitValue? (upperDigit digit) = some digit :=
  (digitValue?_digitChar small).2

/-- The digits of bytes are read back as the bytes. -/
theorem bytes?_upper (bytes : List UInt8) : bytes? (upper bytes) = some bytes := by
  induction bytes with
  | nil => rfl
  | cons byte bytes induction =>
    have bound := byte.toNat_lt
    have high : digitValue? (upperDigit (byte.toNat / 16)) = some (byte.toNat / 16) :=
      digitValue?_upperDigit (by omega)
    have low : digitValue? (upperDigit (byte.toNat % 16)) = some (byte.toNat % 16) :=
      digitValue?_upperDigit (by omega)
    have whole : UInt8.ofNat (16 * (byte.toNat / 16) + byte.toNat % 16) = byte := by
      rw [Nat.div_add_mod, UInt8.ofNat_toNat]
    rw [upper] at induction
    rw [upper, List.flatMap_cons, upperByte, List.cons_append, List.cons_append, List.nil_append,
      bytes?, high, low, induction]
    exact congrArg (fun first => some (first :: bytes)) whole

theorem upper_injective {left right : List UInt8} (same : upper left = upper right) :
    left = right := by
  have read := congrArg bytes? same
  rw [bytes?_upper, bytes?_upper] at read
  exact Option.some.inj read

theorem length_upper (bytes : List UInt8) : (upper bytes).length = 2 * bytes.length := by
  induction bytes with
  | nil => rfl
  | cons byte bytes induction =>
    rw [upper] at induction
    rw [upper, List.flatMap_cons, List.length_append, induction, List.length_cons]
    simp only [upperByte, List.length_cons, List.length_nil]
    omega

/-- Only a text of hexadecimal digits is read as bytes. -/
theorem isSome_digitValue?_of_mem {text : List Char} {bytes : List UInt8}
    (read : bytes? text = some bytes) {digit : Char} (among : digit ∈ text) :
    (digitValue? digit).isSome := by
  fun_induction bytes? text generalizing bytes with
  | case1 => exact absurd among List.not_mem_nil
  | case2 => exact absurd read (Option.some_ne_none bytes).symm
  | case3 high low rest induction =>
    obtain ⟨highValue, readHigh, read⟩ := Option.bind_eq_some_iff.mp read
    obtain ⟨lowValue, readLow, read⟩ := Option.bind_eq_some_iff.mp read
    obtain ⟨others, readRest, -⟩ := Option.bind_eq_some_iff.mp read
    rcases List.mem_cons.mp among with rfl | among
    · rw [readHigh]
      rfl
    · rcases List.mem_cons.mp among with rfl | later
      · rw [readLow]
        rfl
      · exact induction readRest later

end Hex

namespace ByteText

theorem toList_encode_of_le {bytes : List UInt8} (short : bytes.length ≤ greatestLength) :
    (encode bytes).toList = Hex.upper bytes := by
  rw [encode, if_neg (Nat.not_lt.mpr short), String.toList_ofList]

theorem toList_encode_of_lt {bytes : List UInt8} (long : greatestLength < bytes.length) :
    (encode bytes).toList =
      Hex.upper (bytes.take keptLength) ++
        ("... (".toList ++ (Digits.decimal bytes.length ++ " bytes)".toList)) := by
  rw [encode, if_pos long]
  simp

/-- The bytes of a short sequence can be read back from its text. The text of a long one stands for
no bytes. -/
theorem bytes?_encode (bytes : List UInt8) :
    Hex.bytes? (encode bytes).toList =
      if bytes.length ≤ greatestLength then some bytes else none := by
  by_cases short : bytes.length ≤ greatestLength
  · rw [if_pos short, toList_encode_of_le short, Hex.bytes?_upper]
  · -- The dots of a long text are no hexadecimal digits.
    rw [if_neg short, Option.eq_none_iff_forall_ne_some]
    intro others read
    have dot : '.' ∈ (encode bytes).toList := by
      rw [toList_encode_of_lt (Nat.lt_of_not_le short)]
      exact List.mem_append_right _ (List.mem_append_left _ (by decide))
    exact absurd (Hex.isSome_digitValue?_of_mem read dot) (by decide)

/-- Two long sequences have one text if they agree in what it shows. -/
theorem encode_eq_iff_of_lt {left right : List UInt8} (long : greatestLength < left.length)
    (other : greatestLength < right.length) :
    encode left = encode right ↔
      left.length = right.length ∧ left.take keptLength = right.take keptLength := by
  have digits : (Hex.upper (left.take keptLength)).length =
      (Hex.upper (right.take keptLength)).length := by
    rw [Hex.length_upper, Hex.length_upper, List.length_take, List.length_take]
    unfold greatestLength at long other
    unfold keptLength
    omega
  rw [← String.toList_inj, toList_encode_of_lt long, toList_encode_of_lt other]
  constructor
  · intro same
    obtain ⟨front, back⟩ := List.append_inj same digits
    have length := List.append_cancel_right (List.append_cancel_left back)
    exact ⟨Digits.decimal_injective length, Hex.upper_injective front⟩
  · rintro ⟨length, front⟩
    rw [length, front]

theorem encode_eq_iff (left right : List UInt8) :
    encode left = encode right ↔
      (left.length ≤ greatestLength ∧ right.length ≤ greatestLength ∧ left = right) ∨
        (greatestLength < left.length ∧ greatestLength < right.length ∧ left.length = right.length ∧
          left.take keptLength = right.take keptLength) := by
  constructor
  · intro same
    have read := congrArg (fun text => Hex.bytes? text.toList) same
    simp only [bytes?_encode] at read
    by_cases short : left.length ≤ greatestLength
    · by_cases other : right.length ≤ greatestLength
      · rw [if_pos short, if_pos other] at read
        exact Or.inl ⟨short, other, Option.some.inj read⟩
      · rw [if_pos short, if_neg other] at read
        exact absurd read (Option.some_ne_none left)
    · by_cases other : right.length ≤ greatestLength
      · rw [if_neg short, if_pos other] at read
        exact absurd read.symm (Option.some_ne_none right)
      · have long := Nat.lt_of_not_le short
        have otherLong := Nat.lt_of_not_le other
        exact Or.inr ⟨long, otherLong, (encode_eq_iff_of_lt long otherLong).mp same⟩
  · rintro (⟨-, -, rfl⟩ | ⟨long, other, same⟩)
    · rfl
    · exact (encode_eq_iff_of_lt long other).mpr same

end ByteText

theorem RegisteredType.find?_eq_none {type : TypeRef} {registered : List RegisteredType}
    (missing : ∀ candidate ∈ registered, candidate.type ≠ type) : find? type registered = none := by
  rw [find?, List.find?_eq_none]
  intro candidate listed
  simpa using missing candidate (List.mem_reverse.mp listed)

namespace Converter

variable {converter : Converter} {objects : Objects} {mode : Mode} {holding : ByteHolding}
  {content : List UInt8}

/-- The policies before the one for byte sequences decline, and those behind it are not asked. -/
theorem scalarOf_bytes (create : Option Value → Mode → Logged Tree)
    (unregistered : ∀ candidate ∈ converter.registered,
      candidate.type ≠ Value.byteSequenceType holding content.length) :
    converter.scalarOf objects create (.bytes holding content) =
      pure (some (.text (ByteText.encode content))) := by
  have untyped : converter.typedScalar? (.bytes holding content) = none := by
    rw [typedScalar?, Value.type, RegisteredType.find?_eq_none unregistered, Value.builtIn?_eq]
    rfl
  have encoded : (Value.bytes holding content).bytes? = some content := by
    cases holding <;> rfl
  rw [scalarOf, allowance, scalarWithin, allScalarPolicies, ScalarPolicy.builtIn]
  simp only [List.cons_append, Logged.firstAnswer, wellKnown_eq, untyped, pure_bind,
    ScalarPolicy.nullable, ScalarPolicy.constant, ScalarPolicy.byteSequence, Value.optional?,
    Value.constant?, encoded, Option.map_none, Option.map_some]

theorem level_bytes (nested : Mode → Value → Logged Tree) (untouched : mode ≠ .stringify)
    (unregistered : ∀ candidate ∈ converter.registered,
      candidate.type ≠ Value.byteSequenceType holding content.length) :
    converter.level objects nested mode (.bytes holding content) =
      pure (.text (ByteText.encode content)) :=
  level_of_scalar rfl rfl untouched (fun _ => earlyText?_eq_none rfl)
    (scalarOf_bytes _ unregistered)

end Converter

namespace ByteText

/-- Byte sequences have one text exactly if they are short and equal, or long and agree in their
lengths and first bytes; exactly the short ones can be read back from it. Unless its type is
registered, a byte sequence is captured as that text however it is held and whatever the limits
are. -/
theorem encode_identifies (left right : List UInt8) :
    (encode left = encode right ↔
      (left.length ≤ 1024 ∧ right.length ≤ 1024 ∧ left = right) ∨
        (1024 < left.length ∧ 1024 < right.length ∧ left.length = right.length ∧
          left.take 16 = right.take 16)) ∧
    Hex.bytes? (encode left).toList = (if left.length ≤ 1024 then some left else none) ∧
    ∀ (converter : Converter) (objects : Objects) (depth : Nat) (mode : Mode)
      (holding : ByteHolding), mode ≠ .stringify →
      (∀ candidate ∈ converter.registered,
        candidate.type ≠ (Value.bytes holding left).type) →
      converter.createAt objects depth mode (.bytes holding left) = pure (.text (encode left)) :=
  ⟨encode_eq_iff left right, bytes?_encode left,
    fun _ _ _ _ _ untouched unregistered => Converter.level_bytes _ untouched unregistered⟩

/-- A converter with the least length that texts may have and one element kept of a collection, that
would make nothing of arrays of three bytes, by their type, and of anything by its policies. -/
def intruder : Converter where
  limits := { textLength := some 2, collectionCount := some 1 }
  valid := by decide
  registered := [.withConstructor (Value.byteSequenceType .array 3) fun _ => some .null]
  scalarPolicies := [fun _ _ => pure (some .null)]
  destructuringPolicies := [fun _ _ => pure (some .null)]

/-- An array and a vector of the same two bytes are captured as one text. -/
theorem encode_identifies_pair :
    (∀ candidate ∈ intruder.registered,
      candidate.type ≠ (Value.bytes .array [0xDE, 0xAD]).type) ∧
      (∀ candidate ∈ intruder.registered,
        candidate.type ≠ (Value.bytes .vector [0xDE, 0xAD]).type) ∧
      intruder.convert (fun _ => .unit) .destructure (.bytes .array [0xDE, 0xAD]) =
        pure (.text "DEAD") ∧
      intruder.convert (fun _ => .unit) .default (.bytes .vector [0xDE, 0xAD]) =
        pure (.text "DEAD") := by
  have array : ∀ candidate ∈ intruder.registered,
      candidate.type ≠ (Value.bytes .array [0xDE, 0xAD]).type := by
    intro candidate listed
    obtain rfl := List.mem_singleton.mp listed
    decide
  have vector : ∀ candidate ∈ intruder.registered,
      candidate.type ≠ (Value.bytes .vector [0xDE, 0xAD]).type := by
    intro candidate listed
    obtain rfl := List.mem_singleton.mp listed
    decide
  have text : encode [0xDE, 0xAD] = "DEAD" := by decide
  obtain ⟨-, -, captured⟩ := encode_identifies [0xDE, 0xAD] []
  rw [text] at captured
  exact ⟨array, vector, captured intruder _ 1 .destructure .array Mode.noConfusion array,
    captured intruder _ 1 .default .vector Mode.noConfusion vector⟩

end ByteText

end LogTree
