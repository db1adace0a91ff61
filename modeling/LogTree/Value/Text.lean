import LogTree.Value.Basic

/-!
# Texts of values

Each value has a text, which a log shows when the value is not taken apart, and a diagnostic text,
which stands for the value inside the text of a collection. Scalars have a plain text; the text of
most other values is their diagnostic text.
-/

namespace LogTree

/-- Opening and closing of brackets around items that are separated by commas. -/
def Brackets.enclosing (brackets : Brackets) (items : List String) : String :=
  let content := ", ".intercalate items
  match brackets with
  | square => "[" ++ content ++ "]"
  | curly => "\x7b" ++ content ++ "\x7d"
  | round => "(" ++ content ++ ")"

/-- Diagnostic text of a byte sequence. -/
def bytesDebug (holding : ByteHolding) (content : List UInt8) : String :=
  match holding with
  | .buffer => Quoted.byteString content
  | _ => Brackets.square.enclosing
      (content.map fun byte => String.ofList (Digits.decimal byte.toNat))

namespace Value

/-- Diagnostic text of a value. -/
def debug : Value → String
  | unit => "()"
  | atom value => value.debug
  | text _ content => Quoted.text content
  | bytes holding content => bytesDebug holding content
  | absent _ => "None"
  | present content => "Some(" ++ content.debug ++ ")"
  | pointer _ content => content.debug
  | collection _ brackets elements => brackets.enclosing (debugElements elements)
  | mapping _ _ entries => Brackets.curly.enclosing (debugEntries entries)
  | anonymous fields =>
    "Anonymous \x7b fields: " ++ Brackets.square.enclosing (debugFields fields) ++ " \x7d"
  | typeInfo type id =>
    "TypeInfo \x7b name: " ++ Quoted.text type.fullName ++ ", id: " ++ id ++ " \x7d"
  | memberInfo declaringType name =>
    "MemberInfo \x7b declaring_type: " ++ Quoted.text declaringType ++ ", name: " ++
      Quoted.text name ++ ", qualified: " ++ Quoted.text (declaringType ++ "." ++ name) ++ " \x7d"
  | function _ address => "0x" ++ String.ofList (Digits.lowerHex address)
  | callback signature => "Callback<" ++ signature ++ ">"
  | object _ exposure => exposure.debug
where
  /-- Diagnostic texts of elements. -/
  debugElements : List Value → List String
    | [] => []
    | element :: elements => element.debug :: debugElements elements
  /-- Diagnostic texts of entries. -/
  debugEntries : List (Value × Value) → List String
    | [] => []
    | (key, content) :: entries =>
      (key.debug ++ ": " ++ content.debug) :: debugEntries entries
  /-- Diagnostic texts of fields. -/
  debugFields : List (String × Value) → List String
    | [] => []
    | (name, content) :: fields =>
      Brackets.round.enclosing [Quoted.text name, content.debug] :: debugFields fields
termination_by structural value => value

/-- Text of a value. -/
def display : Value → String
  | unit => "null"
  | atom value => value.text
  | text _ content => content
  | absent _ => "null"
  | present content => content.display
  | pointer _ content => content.display
  | typeInfo type _ => type.fullName
  | memberInfo declaringType name => declaringType ++ "." ++ name
  | object _ exposure => exposure.text
  | other => other.debug

end Value

end LogTree
