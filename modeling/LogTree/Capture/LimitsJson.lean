import LogTree.Capture.Limits
import LogTree.Capture.Policy
import LogTree.Json.Reader

/-!
# Limits and modes as JSON

Limits are written as an object with a member for each of them. They are read from an object, in
which members may be missing and unknown ones are passed over, or from an array of the limits in
order. A mode is written as its name, and read from its name or from an object that holds nothing
under it.
-/

namespace LogTree

namespace Limits

/-- Name of the member that holds the depth. -/
def depthName : String := "maximum_destructuring_depth"

/-- Name of the member that holds the greatest length of a text. -/
def textLengthName : String := "maximum_string_length"

/-- Name of the member that holds the greatest number of elements. -/
def collectionCountName : String := "maximum_collection_count"

/-- A limit that may be missing, as a document. -/
def limitDocument : Option UInt64 → Json
  | none => .null
  | some value => .integer value.toNat

/-- The limits as a document. -/
def document (limits : Limits) : Json :=
  .object
    [(depthName, .integer limits.depth.toInt),
      (textLengthName, limitDocument limits.textLength),
      (collectionCountName, limitDocument limits.collectionCount)]

/-- What was read of limits so far. -/
structure Partial where
  depth : Option Int32 := none
  textLength : Option (Option UInt64) := none
  collectionCount : Option (Option UInt64) := none

/-- The limits with defaults for what was not read. -/
def Partial.limits (found : Partial) : Limits where
  depth := found.depth.getD ({} : Limits).depth
  textLength := found.textLength.getD none
  collectionCount := found.collectionCount.getD none

/-- Takes a depth. -/
def readDepth : JsonReader Int32 := do
  let integer ← JsonReader.expectInteger "i32" (.int .bits32)
  return Int32.ofInt integer.value

/-- Takes a limit that may be missing. -/
def readLimit : JsonReader (Option UInt64) :=
  JsonReader.orNull do
    let integer ← JsonReader.expectInteger "usize" (.nat .address)
    return UInt64.ofNat integer.value.toNat

/-- Takes the value of a member unless it was read before. -/
def readOnce {Result : Type} (name : String) (found : Option Result)
    (read : JsonReader Result) : JsonReader (Option Result) := do
  if found.isSome then JsonReader.unexpected ("duplicate field `" ++ name ++ "`")
  JsonReader.colon
  some <$> read

/-- Takes the value of a member behind its name; values of other members are passed over. -/
def readMember (name : String) (found : Partial) : JsonReader Partial := do
  if name = depthName then
    return { found with depth := ← readOnce name found.depth readDepth }
  else if name = textLengthName then
    return { found with textLength := ← readOnce name found.textLength readLimit }
  else if name = collectionCountName then
    return { found with collectionCount := ← readOnce name found.collectionCount readLimit }
  else
    JsonReader.colon
    JsonReader.skipValue
    return found

/-- Takes at most `fuel` members and the end of their object. -/
def readMembers : (fuel : Nat) → (first : Bool) → Partial → JsonReader Partial
  | 0, _, found => pure found
  | fuel + 1, first, found => do
    if !(← JsonReader.hasName first) then
      JsonReader.skip
      return found
    else
      let name ← JsonReader.string
      readMembers fuel false (← readMember name found)

/-- Takes the elements of an array, as far as there are some, and its end. -/
private def readElements : JsonReader Partial := do
  let mut found : Partial := {}
  if ← JsonReader.hasElement true then
    found := { found with depth := some (← readDepth) }
    if ← JsonReader.hasElement false then
      found := { found with textLength := some (← readLimit) }
      if ← JsonReader.hasElement false then
        found := { found with collectionCount := some (← readLimit) }
  JsonReader.closeArray
  return found

/-- Takes limits, be they usable or not. -/
def read : JsonReader Limits := do
  match ← JsonReader.peek with
  | none => JsonReader.cutOff "EOF while parsing a value"
  | some '[' =>
    JsonReader.skip
    return (← readElements).limits
  | some '\x7b' =>
    JsonReader.skip
    return (← readMembers ((← get).length + 1) true {}).limits
  | some _ => JsonReader.refuse "struct ConverterConfig"

/-- The usable limits that a JSON text holds. -/
def ofJson (text : String) : Except CaptureError Limits :=
  match JsonReader.readAll read text with
  | .error error => .error (.json error)
  | .ok limits =>
    match limits.validate with
    | .error error => .error error
    | .ok () => .ok limits

end Limits

namespace Mode

/-- The mode as a document. -/
def document (mode : Mode) : Json :=
  .string mode.name

/-- Takes the name of a mode behind its first quotation mark. -/
private def readName : JsonReader Mode := do
  let name ← JsonReader.string
  match ofName? name with
  | some mode => return mode
  | none =>
    JsonReader.unexpected ("unknown variant `" ++ name ++ "`, expected one of " ++
      ", ".intercalate (all.map fun mode => "`" ++ mode.name ++ "`"))

/-- Takes a mode. -/
def read : JsonReader Mode := do
  match ← JsonReader.peek with
  | none => JsonReader.cutOff "EOF while parsing a value"
  | some '"' =>
    JsonReader.skip
    readName
  | some '\x7b' =>
    JsonReader.skip
    if !(← JsonReader.hasName true) then JsonReader.malformed "key must be a string"
    let mode ← readName
    JsonReader.colon
    JsonReader.expectNull "unit"
    match ← JsonReader.peek with
    | some '\x7d' =>
      JsonReader.skip
      return mode
    | some _ => JsonReader.malformed "expected value"
    | none => JsonReader.cutOff "EOF while parsing an object"
  | some _ => JsonReader.malformed "expected value"

/-- The mode that a JSON text holds. -/
def ofJson (text : String) : Except CaptureError Mode :=
  match JsonReader.readAll read text with
  | .error error => .error (.json error)
  | .ok mode => .ok mode

end Mode

end LogTree
