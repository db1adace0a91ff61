import LogTree.Json.Reader

/-!
# Reading what was written

A reader takes what it reads from the front of a text and leaves the rest. Blanks before a part of a
document make no difference. The words, strings and integers of a document are read as what was
written.
-/

namespace LogTree.JsonReader

attribute [local instance (high)] instPowNat

variable {First Result : Type}

/-- A reader takes a result from the front of a text and leaves the rest. -/
def Reads (read : JsonReader Result) (text : List Char) (result : Result) (rest : List Char) :
    Prop :=
  read.run text = .ok (result, rest)

theorem Reads.pure (result : Result) (text : List Char) :
    Reads (Pure.pure result) text result text :=
  rfl

theorem Reads.bind {read : JsonReader First} {next : First → JsonReader Result}
    {text middle rest : List Char} {first : First} {result : Result}
    (begin : Reads read text first middle) (further : Reads (next first) middle result rest) :
    Reads (read >>= next) text result rest := by
  rw [Reads, StateT.run_bind, begin]
  exact further

theorem Reads.map {read : JsonReader First} (change : First → Result) {text rest : List Char}
    {first : First} (taken : Reads read text first rest) :
    Reads (change <$> read) text (change first) rest := by
  rw [Reads, StateT.run_map, taken]
  rfl

/-- Nothing but characters that may stand between the parts of a document. -/
def Blank (text : List Char) : Prop :=
  ∀ character ∈ text, isSpace character

theorem dropWhile_blank {blanks rest : List Char} (blank : Blank blanks) :
    (blanks ++ rest).dropWhile isSpace = rest.dropWhile isSpace := by
  induction blanks with
  | nil => rfl
  | cons character blanks induction =>
    obtain ⟨here, later⟩ := List.forall_mem_cons.mp blank
    rw [List.cons_append, List.dropWhile_cons_of_pos here, induction later]

theorem reads_peek {blanks rest : List Char} {character : Char} (blank : Blank blanks)
    (visible : ¬ isSpace character) :
    Reads peek (blanks ++ character :: rest) (some character) (character :: rest) := by
  have left : (blanks ++ character :: rest).dropWhile isSpace = character :: rest := by
    rw [dropWhile_blank blank, List.dropWhile_cons_of_neg visible]
  change Except.ok (((blanks ++ character :: rest).dropWhile isSpace).head?,
    (blanks ++ character :: rest).dropWhile isSpace) = _
  rw [left]
  rfl

theorem reads_next (text : List Char) : Reads next text text.head? text :=
  rfl

theorem reads_get (text : List Char) : Reads get text text text :=
  rfl

theorem reads_skip (character : Char) (rest : List Char) :
    Reads skip (character :: rest) () rest :=
  rfl

theorem reads_colon {blanks : List Char} (blank : Blank blanks) (rest : List Char) :
    Reads colon (blanks ++ ':' :: rest) () rest :=
  (reads_peek blank (by decide)).bind (reads_skip ':' rest)

theorem reads_word (letters rest : List Char) : Reads (word letters) (letters ++ rest) () rest := by
  induction letters with
  | nil => exact .pure () rest
  | cons letter letters induction =>
    refine (reads_next _).bind ?_
    simp only [List.cons_append, List.head?_cons, if_true]
    exact (reads_skip letter _).bind induction

/-- A character stands in a string as it is. -/
def IsPlain (character : Char) : Prop :=
  character ≠ '"' ∧ character ≠ '\\' ∧ ¬ character.toNat < 0x20

instance (character : Char) : Decidable (IsPlain character) :=
  inferInstanceAs (Decidable (_ ∧ _))

theorem reads_stringWithin (checked : Bool) {fuel : Nat} {content : List Char}
    (plain : ∀ character ∈ content, IsPlain character) (enough : content.length < fuel)
    (rest : List Char) :
    Reads (stringWithin checked fuel) (content ++ '"' :: rest) content rest := by
  induction content generalizing fuel with
  | nil =>
    obtain ⟨fuel, rfl⟩ := Nat.exists_eq_add_one.mpr enough
    exact (reads_next _).bind ((reads_skip _ _).bind (.pure _ _))
  | cons character content induction =>
    obtain ⟨fuel, rfl⟩ := Nat.exists_eq_add_one.mpr (Nat.zero_lt_of_lt enough)
    obtain ⟨⟨unquoted, unescaped, printed⟩, later⟩ := List.forall_mem_cons.mp plain
    have remaining := induction later (Nat.lt_of_succ_lt_succ enough)
    refine (reads_next _).bind ?_
    simp only [List.cons_append, List.head?_cons]
    rw [if_neg printed]
    exact (reads_skip _ _).bind (remaining.map _)

theorem reads_string {content : String} (plain : ∀ character ∈ content.toList, IsPlain character)
    (rest : List Char) : Reads string (content.toList ++ '"' :: rest) content rest := by
  have enough : content.toList.length < (content.toList ++ '"' :: rest).length + 1 := by
    simp only [List.length_append]
    omega
  have characters := reads_stringWithin true plain enough rest
  have named := characters.map String.ofList
  rw [String.ofList_toList] at named
  exact (reads_get _).bind named

/-- What may follow a number that has neither decimals nor an exponent. -/
def EndsNumber (rest : List Char) : Prop :=
  ∀ character, rest.head? = some character →
    ¬ character.isDigit ∧ character ≠ '.' ∧ character ≠ 'e' ∧ character ≠ 'E'

theorem reads_digits (value : Nat) {rest : List Char} (ends : EndsNumber rest) :
    Reads digits (Digits.decimal value ++ rest) (Digits.decimal value) rest := by
  have all_digits : ∀ digit ∈ Digits.decimal value, digit.isDigit :=
    fun digit => Digits.isDigit_of_mem_decimal
  have stops : rest.takeWhile Char.isDigit = [] ∧ rest.dropWhile Char.isDigit = rest := by
    cases rest with
    | nil => exact ⟨rfl, rfl⟩
    | cons character rest =>
      have other := (ends character rfl).1
      exact ⟨List.takeWhile_cons_of_neg other, List.dropWhile_cons_of_neg other⟩
  have taken : (Digits.decimal value ++ rest).takeWhile Char.isDigit = Digits.decimal value := by
    rw [List.takeWhile_append_of_pos all_digits, stops.1, List.append_nil]
  have left : (Digits.decimal value ++ rest).dropWhile Char.isDigit = rest := by
    rw [List.dropWhile_append_of_pos all_digits, stops.2]
  change Except.ok ((Digits.decimal value ++ rest).takeWhile Char.isDigit,
    (Digits.decimal value ++ rest).dropWhile Char.isDigit) = _
  rw [taken, left]

theorem le_ofDigitChars (value : Nat) (digits : List Char) :
    value ≤ Nat.ofDigitChars 10 digits value := by
  have power : 0 < 10 ^ digits.length := Nat.pow_pos (by decide)
  rw [Nat.ofDigitChars_eq_ofDigitChars_zero]
  exact Nat.le_trans (Nat.le_mul_of_pos_left value power) (Nat.le_add_right _ _)

/-- Digits of a number that can be kept exactly are all taken up. -/
theorem absorb_eq (value : Nat) (digits : List Char)
    (kept : Nat.ofDigitChars 10 digits value ≤ greatestExact) :
    absorb value digits = (Nat.ofDigitChars 10 digits value, []) := by
  induction digits generalizing value with
  | nil => rfl
  | cons digit digits induction =>
    rw [Nat.ofDigitChars_cons] at kept ⊢
    have first := Nat.le_trans (le_ofDigitChars _ digits) kept
    simp only [absorb, first, if_true]
    exact induction _ kept

theorem absorb_decimal {value : Nat} (kept : value ≤ greatestExact) :
    absorb 0 (Digits.decimal value) = (value, []) := by
  have back : Nat.ofDigitChars 10 (Digits.decimal value) 0 = value := Nat.ofDigitChars_ten_toDigits
  have taken := absorb_eq 0 (Digits.decimal value) (by rwa [back])
  rwa [back] at taken

theorem reads_unended {rest : List Char} (ends : EndsNumber rest) :
    rest.head? ≠ some '.' ∧ isExponentMark rest.head? = false := by
  cases rest with
  | nil => exact ⟨by simp, rfl⟩
  | cons character rest =>
    obtain ⟨-, point, small, capital⟩ := ends character rfl
    exact ⟨by simpa using point, by simp [isExponentMark, small, capital]⟩

theorem eq_zero_of_head_decimal {value : Nat}
    (zero : (Digits.decimal value).head? = some '0') : value = 0 := by
  induction value using Nat.strongRecOn with
  | ind value induction =>
    by_cases small : value < 10
    · simpa [Digits.decimal, Nat.toDigits_of_lt_base small] using zero
    · have large : 10 ≤ value := Nat.le_of_not_lt small
      rw [Digits.decimal, Nat.toDigits_of_base_le (by decide) large,
        List.head?_append, Option.or_of_isSome (by simp)] at zero
      have none_left := induction (value / 10) (by omega) zero
      omega

/-- The digits of a number are no reason to refuse it: only zero begins with the digit zero. -/
theorem decimal_eq_cons (value : Nat) :
    ∃ first further, Digits.decimal value = first :: further ∧ first.isDigit ∧
      ¬ (first = '0' ∧ 1 < (Digits.decimal value).length) := by
  have nonempty : Digits.decimal value ≠ [] := Nat.toDigits_ne_nil
  obtain ⟨first, further, digits⟩ := List.exists_cons_of_ne_nil nonempty
  refine ⟨first, further, digits, Digits.isDigit_of_mem_decimal (digits ▸ List.mem_cons_self), ?_⟩
  rintro ⟨rfl, long⟩
  obtain rfl : value = 0 := eq_zero_of_head_decimal (by rw [digits, List.head?_cons])
  exact absurd long (by decide)

/-- A number of 64 bits with its sign. -/
def signedNumber (isNegative : Bool) (value : Nat) : JsonNumber :=
  if isNegative then .negative (-value) else .natural value

theorem reads_number (isNegative : Bool) {value : Nat} (kept : value ≤ greatestExact)
    (small : isNegative → 0 < value ∧ value ≤ 2 ^ (63 : Nat)) {rest : List Char}
    (ends : EndsNumber rest) :
    Reads (number isNegative) (Digits.decimal value ++ rest)
      (signedNumber isNegative value) rest := by
  obtain ⟨first, further, digits, -, allowed⟩ := decimal_eq_cons value
  obtain ⟨point, mark⟩ := reads_unended ends
  have begins : (Digits.decimal value ++ rest).head? = some first := by rw [digits]; rfl
  have nonempty : Digits.decimal value ≠ [] := by rw [digits]; exact List.cons_ne_nil _ _
  refine (reads_next _).bind ?_
  simp only [begins]
  refine (reads_digits value ends).bind ?_
  rw [if_neg (not_or.mpr ⟨nonempty, allowed⟩)]
  simp only [absorb_decimal kept]
  refine (reads_next rest).bind ?_
  simp only [point, mark, if_false, Bool.false_eq_true, ne_eq, not_true_eq_false]
  cases isNegative with
  | false => exact .pure _ _
  | true =>
    rw [Bool.not_true, if_neg Bool.false_ne_true, if_pos (small rfl)]
    exact .pure _ _

theorem not_isSpace_of_isDigit {digit : Char} (decimal : digit.isDigit) : ¬ isSpace digit := by
  intro space
  simp only [isSpace, Bool.or_eq_true, decide_eq_true_eq] at space
  rcases space with ((rfl | rfl) | rfl) | rfl <;> exact absurd decimal (by decide)

theorem reads_expectNumber (expected : String) {value : Int} {blanks rest : List Char}
    (blank : Blank blanks) (least : -2 ^ (63 : Nat) ≤ value) (greatest : value < 2 ^ (64 : Nat))
    (ends : EndsNumber rest) :
    Reads (expectNumber expected) (blanks ++ (Digits.signed value ++ rest))
      (signedNumber (value < 0) value.natAbs) rest := by
  have kept : value.natAbs ≤ greatestExact := by
    rw [greatestExact]
    omega
  by_cases negative : value < 0
  · have small : 0 < value.natAbs ∧ value.natAbs ≤ 2 ^ (63 : Nat) := by omega
    have sign : Digits.signed value = '-' :: Digits.decimal value.natAbs := by
      simp [Digits.signed, negative]
    rw [sign]
    refine (reads_peek blank (by decide)).bind ((reads_skip _ _).bind ?_)
    simpa [negative] using reads_number true kept (fun _ => small) ends
  · obtain ⟨first, further, digits, digit, -⟩ := decimal_eq_cons value.natAbs
    have number := reads_number false kept nofun ends
    have sign : Digits.signed value = Digits.decimal value.natAbs := by
      simp [Digits.signed, negative]
    rw [sign]
    rw [digits] at number ⊢
    refine (reads_peek blank (not_isSpace_of_isDigit digit)).bind ?_
    split
    next same => exact absurd same (Option.some_ne_none first)
    next same =>
      obtain rfl : first = '-' := Option.some.inj same
      exact absurd digit (by decide)
    next other _ same =>
      obtain rfl : first = other := Option.some.inj same
      rw [if_pos digit]
      simp only [negative, decide_false]
      exact number

/-- An integer of at most 64 bits is read where one of its type is expected. -/
theorem reads_expectInteger (expected : String) (integer : Integer) {blanks rest : List Char}
    (blank : Blank blanks) (least : -2 ^ (63 : Nat) ≤ integer.value)
    (greatest : integer.value < 2 ^ (64 : Nat)) (ends : EndsNumber rest) :
    Reads (expectInteger expected integer.type)
      (blanks ++ (Digits.signed integer.value ++ rest)) integer rest := by
  have held (value : Int) (same : value = integer.value) :
      Reads (expectInteger.held expected integer.type value) rest integer rest := by
    subst same
    rw [expectInteger.held, Integer.ofInt?, dif_pos integer.held]
    exact .pure _ _
  refine (reads_expectNumber expected blank least greatest ends).bind ?_
  by_cases negative : integer.value < 0
  · simp only [signedNumber, negative, decide_true, if_true]
    exact held _ (by omega)
  · simp only [signedNumber, negative, decide_false, Bool.false_eq_true, if_false]
    exact held _ (by omega)

/-- A text is read as a whole if nothing but blanks is left of it. -/
theorem Reads.readAll {read : JsonReader Result} {text : String} {result : Result}
    {rest : List Char} (taken : Reads read text.toList result rest) (blank : Blank rest) :
    readAll read text = .ok result := by
  have left : rest.dropWhile isSpace = [] := by
    rw [← List.append_nil rest, dropWhile_blank blank, List.dropWhile_nil]
  rw [JsonReader.readAll, taken]
  change (if (rest.dropWhile isSpace).isEmpty then _ else _) = _
  rw [left, List.isEmpty_nil, if_pos rfl]
  rfl

theorem reads_null (read : JsonReader Result) {blanks : List Char} (blank : Blank blanks)
    (rest : List Char) :
    Reads (orNull read) (blanks ++ ('n' :: 'u' :: 'l' :: 'l' :: rest)) none rest :=
  (reads_peek blank (by decide)).bind ((reads_word ['n', 'u', 'l', 'l'] rest).bind (.pure _ _))

theorem reads_present {read : JsonReader Result} {blanks text rest : List Char} {first : Char}
    {result : Result} (blank : Blank blanks) (visible : ¬ isSpace first) (present : first ≠ 'n')
    (taken : Reads read (first :: text) result rest) :
    Reads (orNull read) (blanks ++ first :: text) (some result) rest := by
  refine (reads_peek blank visible).bind ?_
  split
  next same => exact absurd (Option.some.inj same) present
  next => exact taken.map some

end LogTree.JsonReader

namespace LogTree

open JsonReader

namespace Json

/-- The parts of a member: its name, a colon and its value. -/
def memberParts (member : String × Json) : List (List Char) :=
  [(stringText member.1).toList, [':'], member.2.compact.toList]

/-- The parts of an object behind its opening brace, with a comma before each member but the
first. -/
def partsBehindBrace : (first : Bool) → List (String × Json) → List (List Char)
  | _, [] => [['\x7d']]
  | first, member :: members =>
    (if first then [] else [[',']]) ++ (memberParts member ++ partsBehindBrace false members)

/-- The parts of an object, between which there may be blanks. -/
def objectParts (members : List (String × Json)) : List (List Char) :=
  ['\x7b'] :: partsBehindBrace true members

/-- A text has some parts in order, with any blanks between them. -/
inductive Spaced : List (List Char) → List Char → Prop where
  | nil {blanks : List Char} : Blank blanks → Spaced [] blanks
  | cons {blanks part text : List Char} {parts : List (List Char)} : Blank blanks →
      Spaced parts text → Spaced (part :: parts) (blanks ++ (part ++ text))

theorem spaced_flatten (parts : List (List Char)) : Spaced parts parts.flatten := by
  have none : Blank [] := List.forall_mem_nil _
  induction parts with
  | nil => exact .nil none
  | cons part parts induction => exact .cons none induction

theorem flatMap_escaped {characters : List Char}
    (plain : ∀ character ∈ characters, IsPlain character) :
    characters.flatMap escaped = characters := by
  have itself (character : Char) (printable : IsPlain character) :
      escaped character = [character] := by
    obtain ⟨unquoted, unescaped, printed⟩ := printable
    fun_cases escaped character <;> first | contradiction | rfl
  induction characters with
  | nil => rfl
  | cons character characters induction =>
    obtain ⟨here, later⟩ := List.forall_mem_cons.mp plain
    rw [List.flatMap_cons, itself character here, induction later, List.singleton_append]

/-- A name without quotation marks, backslashes and control characters is written as it is. -/
theorem toList_stringText {content : String}
    (plain : ∀ character ∈ content.toList, IsPlain character) :
    (stringText content).toList = '"' :: (content.toList ++ ['"']) := by
  simp [stringText, flatMap_escaped plain]

theorem flatten_partsBehindBrace (members : List (String × Json)) :
    (partsBehindBrace true members).flatten =
      (",".intercalate (compact.compactMembers members)).toList ++ ['\x7d'] := by
  induction members with
  | nil => simp [partsBehindBrace, compact.compactMembers]
  | cons member members induction =>
    cases members with
    | nil => simp [partsBehindBrace, memberParts, compact.compactMembers]
    | cons next members =>
      have comma : partsBehindBrace false (next :: members) =
          [','] :: partsBehindBrace true (next :: members) := rfl
      rw [partsBehindBrace, comma, compact.compactMembers, compact.compactMembers,
        String.intercalate_cons_cons, ← compact.compactMembers]
      simp [memberParts, induction]

/-- The text of an object has its parts in order, without any blanks. -/
theorem spaced_compact (members : List (String × Json)) :
    Spaced (objectParts members) (object members).compact.toList := by
  have text : (object members).compact.toList = (objectParts members).flatten := by
    rw [compact, objectParts, List.flatten_cons, flatten_partsBehindBrace]
    simp
  rw [text]
  exact spaced_flatten _

theorem Spaced.length_flatten_le {parts : List (List Char)} {text : List Char}
    (spaced : Spaced parts text) : parts.flatten.length ≤ text.length := by
  induction spaced with
  | nil blank => exact Nat.zero_le _
  | cons blank further induction =>
    simp only [List.flatten_cons, List.length_append]
    omega

theorem length_lt_length_flatten (first : Bool) (members : List (String × Json)) :
    members.length < (partsBehindBrace first members).flatten.length := by
  induction members generalizing first with
  | nil => exact Nat.zero_lt_one
  | cons member members induction =>
    have remaining := induction false
    simp only [partsBehindBrace, memberParts, List.flatten_append, List.flatten_cons,
      List.length_append, List.length_cons]
    omega

theorem Spaced.cons_inv {part text : List Char} {parts : List (List Char)}
    (spaced : Spaced (part :: parts) text) :
    ∃ blanks rest, Blank blanks ∧ text = blanks ++ (part ++ rest) ∧ Spaced parts rest := by
  cases spaced with
  | cons blank further => exact ⟨_, _, blank, rfl, further⟩

theorem Spaced.blank {text : List Char} (spaced : Spaced [] text) : Blank text := by
  cases spaced with
  | nil blank => exact blank

/-- A comma or a brace ends a number, also if blanks come first. -/
theorem Spaced.endsNumber {mark : Char} {text : List Char} {parts : List (List Char)}
    (spaced : Spaced ([mark] :: parts) text) (ends : EndsNumber [mark]) : EndsNumber text := by
  obtain ⟨blanks, rest, blank, rfl, -⟩ := spaced.cons_inv
  intro character begins
  cases blanks with
  | nil => exact ends character begins
  | cons space blanks =>
    obtain rfl : space = character := Option.some.inj begins
    have visible := blank space List.mem_cons_self
    refine ⟨fun digit => not_isSpace_of_isDigit digit visible, ?_, ?_, ?_⟩ <;>
    · rintro rfl
      exact absurd visible (by decide)

theorem spaced_partsBehindBrace_ends {members : List (String × Json)} {text : List Char}
    (spaced : Spaced (partsBehindBrace false members) text) : EndsNumber text := by
  have ends (mark : Char) (apart : ¬ mark.isDigit ∧ mark ≠ '.' ∧ mark ≠ 'e' ∧ mark ≠ 'E') :
      EndsNumber [mark] := fun _ same => Option.some.inj same ▸ apart
  cases members with
  | nil => exact spaced.endsNumber (ends '\x7d' (by decide))
  | cons member members => exact spaced.endsNumber (ends ',' (by decide))

/-- At the end of an object there is no further name. -/
theorem Spaced.reads_hasName_nil {first : Bool} {text : List Char}
    (spaced : Spaced (partsBehindBrace first []) text) :
    ∃ rest, Blank rest ∧ Reads (hasName first) text false ('\x7d' :: rest) := by
  obtain ⟨blanks, rest, blank, rfl, further⟩ := spaced.cons_inv
  exact ⟨rest, further.blank, (reads_peek blank (by decide)).bind (.pure _ _)⟩

/-- Before the end of an object a further name is begun, behind a comma or directly behind the
brace. -/
theorem Spaced.reads_hasName_cons {first : Bool} {member : String × Json}
    {members : List (String × Json)} {text content : List Char}
    (name : (stringText member.1).toList = '"' :: content)
    (spaced : Spaced (partsBehindBrace first (member :: members)) text) :
    ∃ rest, Spaced ([':'] :: member.2.compact.toList :: partsBehindBrace false members) rest ∧
      Reads (hasName first) text true (content ++ rest) := by
  cases first with
  | true =>
    obtain ⟨blanks, rest, blank, rfl, further⟩ := spaced.cons_inv
    refine ⟨rest, further, ?_⟩
    rw [name]
    exact (reads_peek blank (by decide)).bind ((reads_skip _ _).bind (.pure _ _))
  | false =>
    obtain ⟨blanks, behind, blank, rfl, named⟩ := spaced.cons_inv
    obtain ⟨others, rest, between, rfl, further⟩ := named.cons_inv
    refine ⟨rest, further, ?_⟩
    rw [name]
    refine (reads_peek blank (by decide)).bind ((reads_skip _ _).bind ?_)
    exact (reads_peek between (by decide)).bind ((reads_skip _ _).bind (.pure _ _))

end Json

end LogTree
