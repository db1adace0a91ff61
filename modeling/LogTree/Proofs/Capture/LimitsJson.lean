import LogTree.Capture.LimitsJson
import LogTree.Proofs.Capture.Limits
import LogTree.Proofs.Json.Reading

/-!
# Limits as JSON

Limits are read back from an object that holds some of them in any order: those that are left out
have their defaults, and limits that cannot be used are refused with the error of the first of them.
So limits are read back from what they are written as exactly if they can be used.
-/

namespace LogTree.Limits

open JsonReader Json

attribute [local instance (high)] instPowNat

namespace Field

/-- Name of the member that holds the limit. -/
def name : Field → String
  | depth => depthName
  | textLength => textLengthName
  | collectionCount => collectionCountName

/-- The limit as a document. -/
def document (limits : Limits) : Field → Json
  | depth => .integer limits.depth.toInt
  | textLength => limitDocument limits.textLength
  | collectionCount => limitDocument limits.collectionCount

theorem isPlain_name (field : Field) : ∀ character ∈ field.name.toList, IsPlain character := by
  have plain : field.name.toList.all fun character => decide (IsPlain character) := by
    cases field <;> rfl
  intro character among
  exact of_decide_eq_true (List.all_eq_true.mp plain character among)

end Field

/-- Members that hold some of the limits. -/
def members (limits : Limits) (fields : List Field) : List (String × Json) :=
  fields.map fun field => (field.name, field.document limits)

/-- The limits with defaults for all but some of them. -/
def keeping (limits : Limits) (fields : List Field) : Limits where
  depth := if .depth ∈ fields then limits.depth else ({} : Limits).depth
  textLength := if .textLength ∈ fields then limits.textLength else none
  collectionCount := if .collectionCount ∈ fields then limits.collectionCount else none

/-- What was read once some of the limits were. -/
def found (limits : Limits) (fields : List Field) : Partial where
  depth := if .depth ∈ fields then some limits.depth else none
  textLength := if .textLength ∈ fields then some limits.textLength else none
  collectionCount := if .collectionCount ∈ fields then some limits.collectionCount else none

theorem limits_found (limits : Limits) (fields : List Field) :
    (limits.found fields).limits = limits.keeping fields := by
  simp only [Partial.limits, found, keeping]
  congr 1 <;> split <;> rfl

theorem reads_readOnce {Result : Type} (name : String) {read : JsonReader Result}
    {blanks text rest : List Char} {result : Result} (blank : Blank blanks)
    (taken : Reads read text result rest) :
    Reads (readOnce name none read) (blanks ++ ':' :: text) (some result) rest :=
  (reads_colon blank text).bind (taken.map some)

theorem reads_readDepth (depth : Int32) {blanks rest : List Char} (blank : Blank blanks)
    (ends : EndsNumber rest) :
    Reads readDepth (blanks ++ ((Json.integer depth.toInt).compact.toList ++ rest)) depth rest := by
  have least : -2 ^ (31 : Nat) ≤ depth.toInt := depth.le_toInt
  have greatest : depth.toInt < 2 ^ (31 : Nat) := depth.toInt_lt
  have held : (IntegerType.int .bits32).Holds depth.toInt := ⟨least, Int.le_sub_one_of_lt greatest⟩
  have integer := reads_expectInteger "i32" ⟨.int .bits32, depth.toInt, held⟩ blank
    (Int.le_trans (by decide) least) (Int.lt_trans greatest (by decide)) ends
  have digits : (Json.integer depth.toInt).compact.toList = Digits.signed depth.toInt :=
    String.toList_ofList
  have back : Reads (return Int32.ofInt depth.toInt) rest depth rest := by
    rw [Int32.ofInt_toInt]
    exact .pure depth rest
  rw [digits]
  exact integer.bind back

theorem reads_readLimit (limit : Option UInt64) {blanks rest : List Char} (blank : Blank blanks)
    (ends : EndsNumber rest) :
    Reads readLimit (blanks ++ ((limitDocument limit).compact.toList ++ rest)) limit rest := by
  cases limit with
  | none => exact reads_null _ blank rest
  | some limit =>
    have small : (limit.toNat : Int) < 2 ^ (64 : Nat) := Int.ofNat_lt.mpr limit.toNat_lt
    have natural : (0 : Int) ≤ limit.toNat := Int.natCast_nonneg _
    have held : (IntegerType.nat .address).Holds limit.toNat :=
      ⟨natural, Int.le_sub_one_of_lt small⟩
    have integer := reads_expectInteger "usize" ⟨.nat .address, limit.toNat, held⟩
      (List.forall_mem_nil _) (Int.le_trans (by decide) natural) small ends
    have back : Reads (return UInt64.ofNat (limit.toNat : Int).toNat) rest limit rest := by
      rw [Int.toNat_natCast, UInt64.ofNat_toNat]
      exact .pure limit rest
    have unsigned : Digits.signed limit.toNat = Digits.decimal limit.toNat := by
      rw [Digits.signed, if_neg (Int.not_lt.mpr natural), Int.natAbs_natCast, List.nil_append]
    have digits : (limitDocument (some limit)).compact.toList = Digits.decimal limit.toNat :=
      String.toList_ofList.trans unsigned
    obtain ⟨first, further, decimal, digit, -⟩ := decimal_eq_cons limit.toNat
    rw [unsigned, decimal] at integer
    rw [digits, decimal]
    refine reads_present blank (not_isSpace_of_isDigit digit) ?_ (integer.bind back)
    rintro rfl
    exact absurd digit (by decide)

/-- Reading the value of a limit that was not read before adds this limit to what was read. -/
theorem reads_readMember (limits : Limits) {field : Field} {done : List Field}
    (fresh : field ∉ done) {others : List (String × Json)} {text : List Char}
    (spaced : Spaced
      ([':'] :: (field.document limits).compact.toList :: partsBehindBrace false others) text) :
    ∃ rest, Spaced (partsBehindBrace false others) rest ∧
      Reads (readMember field.name (limits.found done)) text
        (limits.found (field :: done)) rest := by
  obtain ⟨blanks, behind, blank, rfl, valued⟩ := spaced.cons_inv
  obtain ⟨between, rest, blank_between, rfl, further⟩ := valued.cons_inv
  have ends := spaced_partsBehindBrace_ends further
  refine ⟨rest, further, ?_⟩
  cases field with
  | depth =>
    have unread : (limits.found done).depth = none := if_neg fresh
    have value := reads_readOnce depthName blank (reads_readDepth limits.depth blank_between ends)
    have added : limits.found (.depth :: done) =
        { limits.found done with depth := some limits.depth } := by simp [found]
    rw [readMember, Field.name, if_pos rfl, unread, added]
    exact value.bind (.pure _ rest)
  | textLength =>
    have unread : (limits.found done).textLength = none := if_neg fresh
    have value := reads_readOnce textLengthName blank
      (reads_readLimit limits.textLength blank_between ends)
    have added : limits.found (.textLength :: done) =
        { limits.found done with textLength := some limits.textLength } := by simp [found]
    rw [readMember, Field.name, if_neg (by decide), if_pos rfl, unread, added]
    exact value.bind (.pure _ rest)
  | collectionCount =>
    have unread : (limits.found done).collectionCount = none := if_neg fresh
    have value := reads_readOnce collectionCountName blank
      (reads_readLimit limits.collectionCount blank_between ends)
    have added : limits.found (.collectionCount :: done) =
        { limits.found done with collectionCount := some limits.collectionCount } := by simp [found]
    rw [readMember, Field.name, if_neg (by decide), if_neg (by decide), if_pos rfl, unread, added]
    exact value.bind (.pure _ rest)

/-- Reading an object of limits that were not read before adds them to what was read. -/
theorem reads_readMembers (limits : Limits) {fields done : List Field}
    (apart : (fields ++ done).Nodup) {fuel : Nat} (enough : fields.length < fuel) {first : Bool}
    {text : List Char}
    (spaced : Spaced (partsBehindBrace first (limits.members fields)) text) :
    ∃ rest, Blank rest ∧
      Reads (readMembers fuel first (limits.found done)) text
        (limits.found (fields.reverse ++ done)) rest := by
  induction fields generalizing done fuel first text with
  | nil =>
    obtain ⟨fuel, rfl⟩ := Nat.exists_eq_add_one.mpr enough
    obtain ⟨rest, blank, ended⟩ := spaced.reads_hasName_nil
    exact ⟨rest, blank, ended.bind ((reads_skip _ rest).bind (.pure _ rest))⟩
  | cons field fields induction =>
    obtain ⟨fuel, rfl⟩ := Nat.exists_eq_add_one.mpr (Nat.zero_lt_of_lt enough)
    have fresh : field ∉ done :=
      fun among => (List.nodup_cons.mp apart).1 (List.mem_append_right fields among)
    have apart_later : (fields ++ field :: done).Nodup := List.perm_middle.nodup_iff.mpr apart
    have plain := field.isPlain_name
    obtain ⟨behind, valued, begun⟩ := spaced.reads_hasName_cons (toList_stringText plain)
    obtain ⟨further, remaining, value⟩ := limits.reads_readMember fresh valued
    obtain ⟨rest, blank, members⟩ :=
      induction apart_later (Nat.lt_of_succ_lt_succ enough) remaining
    rw [List.append_assoc] at begun
    rw [List.reverse_cons, List.append_assoc, List.singleton_append]
    exact ⟨rest, blank, begun.bind ((reads_string plain behind).bind (value.bind members))⟩

/-- What was read does not depend on the order in which it was. -/
theorem found_congr (limits : Limits) {fields others : List Field}
    (same : ∀ field, field ∈ fields ↔ field ∈ others) :
    limits.found fields = limits.found others := by
  simp only [found, same]

/-- Limits are read from an object that holds some of them, whatever blanks are in it. -/
theorem readAll_read (limits : Limits) {fields : List Field} (apart : fields.Nodup) {text : String}
    (spaced : Spaced (objectParts (limits.members fields)) text.toList) :
    readAll read text = .ok (limits.keeping fields) := by
  obtain ⟨blanks, behind, blank, characters, further⟩ := spaced.cons_inv
  have enough : fields.length < behind.length + 1 := by
    have count : (limits.members fields).length = fields.length := List.length_map _
    have least := length_lt_length_flatten true (limits.members fields)
    have most := further.length_flatten_le
    omega
  have apart_nothing : (fields ++ []).Nodup := by rwa [List.append_nil]
  obtain ⟨rest, blank_rest, members⟩ := limits.reads_readMembers apart_nothing enough further
  have all : limits.found (fields.reverse ++ []) = limits.found fields :=
    limits.found_congr fun field => by rw [List.append_nil, List.mem_reverse]
  rw [all] at members
  have taken : Reads read text.toList (limits.keeping fields) rest := by
    rw [characters, ← limits_found]
    exact (reads_peek blank (by decide)).bind ((reads_skip _ behind).bind
      ((reads_get behind).bind (members.bind (.pure _ rest))))
  exact taken.readAll blank_rest

/-- An object with some of the limits holds them if they can be used together with the defaults of
the others, and the error of the first that cannot be used otherwise. -/
theorem ofJson_of_spaced (limits : Limits) {fields : List Field} (apart : fields.Nodup)
    {text : String} (spaced : Spaced (objectParts (limits.members fields)) text.toList) :
    ofJson text = (limits.keeping fields).validate.map fun _ => limits.keeping fields := by
  rw [ofJson, limits.readAll_read apart spaced]
  simp only
  split
  next error => rw [error, Except.map]
  next ok => rw [ok, Except.map]

theorem validate_of_valid {limits : Limits} (valid : limits.Valid) : limits.validate = .ok () := by
  rw [validate, show limits.error? = none from valid]

/-- Limits that are read can be used. -/
theorem valid_of_ofJson {text : String} {limits : Limits} (held : ofJson text = .ok limits) :
    limits.Valid := by
  rw [ofJson] at held
  split at held
  next => cases held
  next read _ =>
    split at held
    next => cases held
    next valid =>
      obtain rfl : read = limits := Except.ok.inj held
      rw [validate] at valid
      split at valid
      next => cases valid
      next usable => exact usable

theorem keeping_all (limits : Limits) : limits.keeping Field.all = limits := by
  simp [keeping, Field.all]

/-- What limits are written as holds them exactly if they can be used. -/
theorem ofJson_document_iff (limits : Limits) :
    ofJson limits.document.compact = .ok limits ↔ limits.Valid := by
  have spaced : Spaced (objectParts (limits.members Field.all)) limits.document.compact.toList :=
    spaced_compact (limits.members Field.all)
  refine ⟨valid_of_ofJson, fun valid => ?_⟩
  rw [limits.ofJson_of_spaced (by decide) spaced, keeping_all, validate_of_valid valid, Except.map]

/-- Limits are read back from an object that holds any of them in any order, with defaults for the
others and the error of the first that cannot be used; so exactly the usable limits are read back
from what they are written as, and only usable limits are read at all. -/
theorem ofJson_reads_back :
    (∀ (limits : Limits) (fields : List Field) (text : String), fields.Nodup →
      Spaced (objectParts (limits.members fields)) text.toList →
      ofJson text = (limits.keeping fields).validate.map fun _ => limits.keeping fields) ∧
    (∀ limits : Limits, ofJson limits.document.compact = .ok limits ↔ limits.Valid) ∧
    ∀ (text : String) (limits : Limits), ofJson text = .ok limits → limits.Valid :=
  ⟨fun limits _ _ apart spaced => limits.ofJson_of_spaced apart spaced, ofJson_document_iff,
    fun _ _ held => valid_of_ofJson held⟩

/-- The greatest depth and length, and a count that cannot be used. -/
def uncountable : Limits where
  depth := 2147483647
  textLength := some 18446744073709551615
  collectionCount := some 0

/-- The length and the depth of `uncountable` as an object. -/
def countlessText : String :=
  "\x7b\"maximum_string_length\":18446744073709551615," ++
    "\"maximum_destructuring_depth\":2147483647\x7d"

/-- Without the count the others can be used and are read back. -/
theorem ofJson_reads_back_countless :
    [Field.textLength, .depth].Nodup ∧
    Spaced (objectParts (uncountable.members [.textLength, .depth])) countlessText.toList ∧
    ofJson countlessText = .ok { uncountable with collectionCount := none } ∧
    ({ uncountable with collectionCount := none } : Limits).Valid := by
  have compact : countlessText = (object (uncountable.members [.textLength, .depth])).compact := by
    decide
  have spaced :
      Spaced (objectParts (uncountable.members [.textLength, .depth])) countlessText.toList := by
    rw [compact]
    exact spaced_compact _
  have apart : [Field.textLength, .depth].Nodup := by decide
  have held := ofJson_reads_back.1 uncountable _ _ apart spaced
  exact ⟨apart, spaced, held, ofJson_reads_back.2.2 _ _ held⟩

end LogTree.Limits
