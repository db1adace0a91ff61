import LogTree.Capture.Limits
import LogTree.Capture.Policy
import LogTree.Text.Blank
import LogTree.Text.Letter
import LogTree.Value.Height

/-!
# Conversion

A converter turns values into trees. It looks through transparent wrappers, keeps an absent value as
nothing, and asks its scalar policies first and its destructuring policies next. What they decline
is converted by its form: a mapping to a dictionary or to pairs, a collection to a sequence, and,
when it is to be taken apart, an object to a record.

Values inside of a value are converted one level deeper. The number of levels that are left bounds
the recursion; at the last one a value is kept as text.

A scalar policy may ask for the scalar of any value, also of one that it makes itself, and the
policies that are asked about that one may ask again. Nothing bounds these questions, so a
conversion follows them to a depth of its own choice, which may be any. What is answered to a
question beyond that depth is left open, so that it is not taken for being declined.
-/

namespace LogTree

/-- How far the questions of scalar policies are followed. -/
structure Patience where
  /-- How many questions inside of one another are followed beyond those about what stands inside of
  the value in question. -/
  questions : Nat := 10000
  /-- What is answered to a question that is not followed, which may be anything. -/
  beyond : Objects → (Option Value → Mode → Logged Tree) → Value → Logged (Option Scalar) :=
    fun _ _ _ => pure none

/-- Usable limits together with what a caller adds to them. -/
structure Converter where
  /-- The limits. -/
  limits : Limits
  /-- Every limit can be used. -/
  valid : limits.Valid
  /-- The types whose values are scalars, the last registration of a type counting. -/
  registered : List RegisteredType
  /-- The scalar policies that are asked after all others. -/
  scalarPolicies : List ScalarPolicy
  /-- The destructuring policies that are asked before all others. -/
  destructuringPolicies : List DestructuringPolicy
  /-- How far the questions of scalar policies are followed. -/
  patience : Patience := {}

namespace Converter

/-- Greatest number of levels that are taken apart. -/
def depth (converter : Converter) : Nat :=
  converter.limits.depth.toInt.toNat

/-- Greatest length of a text, if there is one. -/
def textLength (converter : Converter) : Option Nat :=
  converter.limits.textLength.map (·.toNat)

/-- Greatest number of elements of a collection, if there is one. -/
def collectionCount (converter : Converter) : Option Nat :=
  converter.limits.collectionCount.map (·.toNat)

/-- The mark at the end of a text that was cut. -/
def cutMark : Char := '…'

/-- A text cut to the greatest length, the mark of the cut included. -/
def cut (converter : Converter) (text : String) : String :=
  match converter.textLength with
  | none => text
  | some length =>
    if text.length ≤ length then text
    else String.ofList (text.toList.take (length - 1) ++ [cutMark])

/-- The elements of a collection that are kept. -/
def kept {Item : Type} (converter : Converter) (items : List Item) : List Item :=
  match converter.collectionCount with
  | none => items
  | some count => items.take count

/-- A value as its text, cut to the greatest length. -/
def stringified (converter : Converter) (value : Value) : Tree :=
  .text (converter.cut value.display)

/-- A value below the deepest level. -/
def flattened (converter : Converter) (maximum : Nat) (value : Value) : Logged Tree := do
  Logged.note (.depthReached maximum value.typeName)
  return converter.stringified value

/-- All scalar policies in the order in which they are asked. -/
def allScalarPolicies (converter : Converter) : List ScalarPolicy :=
  ScalarPolicy.builtIn converter.registered ++ converter.scalarPolicies

/-- All destructuring policies in the order in which they are asked. -/
def allDestructuringPolicies (converter : Converter) : List DestructuringPolicy :=
  converter.destructuringPolicies ++ DestructuringPolicy.builtIn

section Level

variable (converter : Converter) (objects : Objects)

/-- The scalar of a value: the first answer of the scalar policies. A policy may ask for the scalars
of other values; `levels` is how many such questions inside of one another are followed. -/
def scalarWithin (create : Option Value → Mode → Logged Tree) :
    (levels : Nat) → Value → Logged (Option Scalar)
  | 0, value => converter.patience.beyond objects create value
  | levels + 1, value =>
    Logged.firstAnswer
      (fun policy => policy value ⟨create, scalarWithin create levels, objects⟩)
      converter.allScalarPolicies

/-- How many questions inside of one another are followed to find the scalar of a value. -/
def allowance (value : Value) : Nat :=
  value.height + converter.patience.questions + 1

/-- The scalar of a value: the first answer of the scalar policies. -/
def scalarOf (create : Option Value → Mode → Logged Tree) (value : Value) :
    Logged (Option Scalar) :=
  converter.scalarWithin objects create (converter.allowance value) value

/-- A factory whose trees are made by a conversion of values that are present. -/
def factory (nested : Mode → Value → Logged Tree) : Factory :=
  let create : Option Value → Mode → Logged Tree := fun value mode =>
    match value with
    | none => pure .null
    | some present => nested mode present
  ⟨create, converter.scalarOf objects create, objects⟩

variable (nested : Mode → Value → Logged Tree)

/-- The key of a dictionary: the scalar of a value, or its text if there is none. -/
def keyOf (key : Value) : Logged Scalar := do
  match ← (converter.factory objects nested).scalar key with
  | some scalar => return scalar
  | none => return .text key.display

/-- A mapping as a dictionary, or as pairs if its keys are no dictionary keys. -/
def ofMapping (mode : Mode) (mapping : MappingView Value) : Logged Tree := do
  let entries := converter.kept mapping.entries
  if mapping.key.isDictionaryKey then
    let pairs ← Logged.traverse
      (fun (key, content) => do
        let scalar ← converter.keyOf objects nested key
        let tree ← nested mode content
        return (scalar, tree))
      entries
    return .dictionaryOf pairs
  else
    let pairs ← Logged.traverse
      (fun (key, content) => do
        let first ← nested mode key
        let second ← nested mode content
        return Tree.sequence [first, second])
      entries
    return .sequence pairs

/-- What stands for a member that cannot be read. -/
def unreadable (owner : Value) (member : String) (message : String) : Logged Tree := do
  Logged.note (.accessorFailed owner.typeName member message)
  return .text ("The property accessor threw an exception: " ++ message)

/-- The property that a member becomes, or nothing if the member is left out. -/
def propertyOf (owner : Value) (member : Member Value) :
    Logged (Option (String × Tree)) := do
  if member.isIndexer then
    Logged.note (.indexerSkipped owner.typeName member.name)
    return none
  else if isBlank member.name then
    Logged.note (.namelessSkipped owner.typeName)
    return none
  else
    let tree ← match member.read with
      | .value content => nested .destructure content
      | .link index => nested .destructure (objects index)
      | .failed error => unreadable owner member.name error.message
      | .interrupted cause => unreadable owner member.name cause.text
    return some (member.name, tree)

/-- The tag of a record: a type name that begins with a letter and holds no opening brace. -/
def tagOf (typeName : String) : Option String :=
  match typeName.toList with
  | [] => none
  | first :: _ => if isLetter first ∧ '\x7b' ∉ typeName.toList then some typeName else none

/-- An object as a record of its members. -/
def ofMembers (owner : Value) (members : List (Member Value)) : Logged Tree := do
  let properties ← Logged.traverse (propertyOf objects nested owner) members
  return .record (tagOf owner.typeName) (properties.filterMap id)

/-- A value by its form: a mapping, a collection, an object that is to be taken apart, or text. -/
def byForm (mode : Mode) (value : Value) : Logged Tree :=
  match value.mapping? with
  | some mapping => converter.ofMapping objects nested mode mapping
  | none =>
    match value.elements? with
    | some elements => do
      let trees ← Logged.traverse (nested mode) (converter.kept elements)
      return .sequence trees
    | none =>
      match mode, value.members? with
      | .destructure, some members => ofMembers objects nested value members
      | _, _ => pure (.text value.display)

/-- The scalar of a value, or what comes next if there is none. -/
def byScalar (value : Value) (otherwise : Unit → Logged Tree) : Logged Tree := do
  match ← (converter.factory objects nested).scalar value with
  | some scalar => return .scalar scalar
  | none => otherwise ()

/-- The first answer of the destructuring policies, or what comes next if there is none. -/
def byDestructuring (value : Value) (otherwise : Unit → Logged Tree) : Logged Tree := do
  match ← Logged.firstAnswer
      (fun policy => policy value (converter.factory objects nested))
      converter.allDestructuringPolicies with
  | some tree => return tree
  | none => otherwise ()

/-- The text of a text value that is to be taken apart while texts have a greatest length. -/
def earlyText? (value : Value) : Option String :=
  if converter.textLength.isSome then value.plainText?.map converter.cut else none

/-- A value that is no transparent wrapper. An absent one is nothing; one that neither the mode nor
a policy claims is converted as `otherwise` says. -/
def byPolicy (mode : Mode) (value : Value) (otherwise : Unit → Logged Tree) : Logged Tree :=
  match value.optional? with
  | some none => pure .null
  | _ =>
    match mode with
    | .default => converter.byScalar objects nested value otherwise
    | .stringify => pure (converter.stringified value)
    | .destructure =>
      match converter.earlyText? value with
      | some content => pure (.text content)
      | none =>
        converter.byScalar objects nested value fun _ =>
          converter.byDestructuring objects nested value otherwise

/-- A value at a level whose inner values are converted by `nested`. Wrappers and present values do
not make a level of their own. -/
def level (mode : Mode) : Value → Logged Tree
  | .pointer _ content => level mode content
  | .present content =>
    converter.byPolicy objects nested mode (.present content) fun _ => level mode content
  | .object fullName exposure =>
    match exposure with
    | { wrapped := some content, .. } => level mode content
    | { wrapped := none, optional := some (some content), .. } =>
      converter.byPolicy objects nested mode (.object fullName exposure) fun _ =>
        level mode content
    | _ =>
      converter.byPolicy objects nested mode (.object fullName exposure) fun _ =>
        converter.byForm objects nested mode (.object fullName exposure)
  | value =>
    converter.byPolicy objects nested mode value fun _ =>
      converter.byForm objects nested mode value
termination_by structural value => value

end Level

/-- The conversion of values inside of a value when `levels` further levels may be taken apart. -/
def nested (converter : Converter) (objects : Objects) :
    (levels : Nat) → Mode → Value → Logged Tree
  | 0, _, value => converter.flattened converter.depth value
  | levels + 1, mode, value =>
    converter.level objects (converter.nested objects levels) mode value

/-- The conversion of a value that stands at a depth, the outermost value standing at one. -/
def createAt (converter : Converter) (objects : Objects) (depth : Nat) (mode : Mode)
    (value : Value) : Logged Tree :=
  converter.level objects (converter.nested objects (converter.depth + 1 - depth)) mode value

/-- The tree of a value. -/
def convert (converter : Converter) (objects : Objects) (mode : Mode) (value : Value) :
    Logged Tree :=
  converter.createAt objects 1 mode value

/-- Diagnostic text of the converter. -/
def debug (converter : Converter) : String :=
  "PropertyValueConverter \x7b maximum_destructuring_depth: " ++ natText converter.depth ++
    ", maximum_string_length: " ++ optionText converter.textLength ++
    ", maximum_collection_count: " ++ optionText converter.collectionCount ++
    ", scalar_policies: " ++ natText converter.allScalarPolicies.length ++
    ", destructuring_policies: " ++ natText converter.allDestructuringPolicies.length ++ " \x7d"
where
  /-- Text of a number. -/
  natText (number : Nat) : String :=
    String.ofList (Digits.decimal number)
  /-- Text of a number that may be missing. -/
  optionText : Option Nat → String
    | none => "None"
    | some number => "Some(" ++ natText number ++ ")"

end Converter

end LogTree
