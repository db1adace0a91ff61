import LogTree.Entries
import LogTree.Number.FloatText

/-!
# JSON documents

A document and its texts, one without any blanks and one with a line for each element. Finite
floating point numbers are written with the fewest digits that identify them in their own format.
-/

namespace LogTree

/-- A JSON document. The members of an object are kept in order and may repeat a name. -/
inductive Json where
  | null
  | bool (value : Bool)
  | integer (value : Int)
  /-- A number of the 32-bit binary format. -/
  | single (negative : Bool) (magnitude : Dyadic)
  /-- A number of the 64-bit binary format. -/
  | double (negative : Bool) (magnitude : Dyadic)
  | string (content : String)
  | array (elements : List Json)
  | object (members : List (String × Json))

instance : Inhabited Json := ⟨.null⟩

namespace FloatStyle

/-- How a 32-bit number stands in a document. -/
def jsonSingle : FloatStyle :=
  ⟨.even, fun power => -6 ≤ power && power ≤ 12, true, true⟩

/-- How a 64-bit number stands in a document. -/
def jsonDouble : FloatStyle :=
  ⟨.even, fun power => -5 ≤ power && power ≤ 15, true, true⟩

end FloatStyle

namespace Json

/-- A character as it stands in a string of a document. -/
def escaped (character : Char) : List Char :=
  match character with
  | '"' => ['\\', '"']
  | '\\' => ['\\', '\\']
  | '\x08' => ['\\', 'b']
  | '\x0c' => ['\\', 'f']
  | '\n' => ['\\', 'n']
  | '\r' => ['\\', 'r']
  | '\t' => ['\\', 't']
  | other =>
    if other.toNat < 0x20 then ['\\', 'u'] ++ Digits.padded 4 '0' (Digits.lowerHex other.toNat)
    else [other]

/-- A string of a document. -/
def stringText (content : String) : String :=
  String.ofList ('"' :: content.toList.flatMap escaped ++ ['"'])

/-- An integer of a document. -/
def integerText (value : Int) : String :=
  String.ofList (Digits.signed value)

/-- The text of a document without blanks. -/
def compact : Json → String
  | null => "null"
  | bool value => if value then "true" else "false"
  | integer value => integerText value
  | single negative magnitude =>
    (FloatDatum.finite negative magnitude).text .single .jsonSingle
  | double negative magnitude =>
    (FloatDatum.finite negative magnitude).text .double .jsonDouble
  | string content => stringText content
  | array elements => "[" ++ ",".intercalate (compactElements elements) ++ "]"
  | object members => "\x7b" ++ ",".intercalate (compactMembers members) ++ "\x7d"
where
  /-- The texts of elements. -/
  compactElements : List Json → List String
    | [] => []
    | element :: elements => element.compact :: compactElements elements
  /-- The texts of members. -/
  compactMembers : List (String × Json) → List String
    | [] => []
    | (name, value) :: members =>
      (stringText name ++ ":" ++ value.compact) :: compactMembers members
termination_by structural document => document

/-- A line break and two blanks for each level. -/
private def lineBreak (level : Nat) : String :=
  String.ofList ('\n' :: List.replicate (2 * level) ' ')

/-- Items between brackets, each on a line of its own one level deeper. -/
private def block (level : Nat) (opening closing : String) (items : List String) : String :=
  if items = [] then opening ++ closing
  else opening ++ lineBreak (level + 1) ++ ("," ++ lineBreak (level + 1)).intercalate items ++
    lineBreak level ++ closing

/-- The text of a document that stands at a level, with a line for each element and member. -/
def indented (level : Nat) : Json → String
  | array elements => block level "[" "]" (indentedElements (level + 1) elements)
  | object members => block level "\x7b" "\x7d" (indentedMembers (level + 1) members)
  | other => other.compact
where
  /-- The texts of elements. -/
  indentedElements (level : Nat) : List Json → List String
    | [] => []
    | element :: elements => element.indented level :: indentedElements level elements
  /-- The texts of members. -/
  indentedMembers (level : Nat) : List (String × Json) → List String
    | [] => []
    | (name, value) :: members =>
      (stringText name ++ ": " ++ value.indented level) :: indentedMembers level members
termination_by structural document => document

/-- The text of a document with a line for each element and member. -/
def pretty (document : Json) : String :=
  document.indented 0

/-- The document as a value: every number of the 32-bit format is widened to the 64-bit one, and of
the members of one name only one is left, at the place of the first and with the value of the
last. -/
def settled : Json → Json
  | single negative magnitude => double negative (BinaryFormat.double.widened magnitude)
  | array elements => array (settledElements elements)
  | object members => object (Entries.ofList (settledMembers members))
  | other => other
where
  /-- Elements as values. -/
  settledElements : List Json → List Json
    | [] => []
    | element :: elements => element.settled :: settledElements elements
  /-- Members as values, names still repeated. -/
  settledMembers : List (String × Json) → List (String × Json)
    | [] => []
    | (name, value) :: members => (name, value.settled) :: settledMembers members
termination_by structural document => document

end Json

end LogTree
