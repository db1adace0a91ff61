import LogTree.Error
import LogTree.Value.TypeRef

/-!
# Values to be captured

A value is described by what it lets a log see of itself. The library knows the description of
scalars, texts, byte sequences, optional values, pointers, collections, mappings, ad-hoc objects,
descriptors and functions; a caller's type describes its values by an exposure, every part of which
is optional.

A member of an object may lead to an object of a table, so object graphs may share nodes and have
cycles although each description is finite.
-/

namespace LogTree

/-- How a byte sequence is held. -/
inductive ByteHolding where
  /-- As a shared buffer. -/
  | buffer
  /-- As a slice. -/
  | slice
  /-- As a growing vector, which is also a collection. -/
  | vector
  /-- As an array, which is also a collection. -/
  | array
deriving DecidableEq, Repr

/-- The brackets that a collection is written between. -/
inductive Brackets where
  | square
  | curly
  | round
deriving DecidableEq, Repr

/-- What a type says of the keys of a mapping. -/
structure KeyType where
  /-- The type of the keys. -/
  type : TypeRef
  /-- Whether the type says that it is an enumerated type. -/
  isEnum : Bool
deriving DecidableEq, Repr

/-- Why an accessor broke off without an error. -/
inductive Interruption where
  /-- A message. -/
  | message (text : String)
  /-- Something that is no message. -/
  | unknown
deriving DecidableEq, Repr

namespace Interruption

/-- Text of the cause. -/
def text : Interruption → String
  | message text => text
  | unknown => "Unknown panic"

end Interruption

/-- What reading a member gives. -/
inductive Reading (V : Type) where
  /-- A value. -/
  | value (content : V)
  /-- The object of a table at a place. -/
  | link (index : Nat)
  /-- An error. -/
  | failed (error : CaptureError)
  /-- Nothing, because the accessor broke off. -/
  | interrupted (cause : Interruption)

/-- Where the value of a member comes from. -/
inductive MemberSource (V : Type) where
  /-- A stored field. -/
  | field (content : V)
  /-- An accessor, with what it gives when it is called. -/
  | getter (reading : Reading V)
  /-- An accessor that cannot be called without arguments. -/
  | indexer

/-- A readable member of an object. -/
structure Member (V : Type) where
  /-- Name of the member. -/
  name : String
  /-- Where its value comes from. -/
  source : MemberSource V

instance {V : Type} : Inhabited (Member V) := ⟨"", .indexer⟩

/-- A mapping: what is known of its keys, and its entries in order. -/
structure MappingView (V : Type) where
  /-- What is known of the keys. -/
  key : KeyType
  /-- Keys and values in order. -/
  entries : List (V × V)

/-- What a value of a caller's type lets a log see. -/
structure Exposure (V : Type) where
  /-- Name of the type as a log shows it. -/
  typeName : String
  /-- Text of the value. -/
  text : String
  /-- Diagnostic text of the value. -/
  debug : String
  /-- The content of a transparent wrapper. -/
  wrapped : Option V := none
  /-- The content of an optional value, which may be absent. -/
  optional : Option (Option V) := none
  /-- The named constant that the value is. -/
  constant : Option EnumConstant := none
  /-- The bytes that the value is. -/
  bytes : Option (List UInt8) := none
  /-- The signature of a function. -/
  callable : Option String := none
  /-- The name of a described type or member. -/
  descriptor : Option String := none
  /-- The elements of a collection in order. -/
  elements : Option (List V) := none
  /-- The entries of a mapping. -/
  mapping : Option (MappingView V) := none
  /-- The readable members in order. -/
  members : Option (List (Member V)) := none
  /-- The scalar that keeps the value as it is, if its type can be registered for that. -/
  custom : Option CustomScalar := none
  /-- The place of the value in the order of its type, if it has one. -/
  rank : Option Int := none

/-- A value to be captured. -/
inductive Value where
  /-- The only value of the empty product. -/
  | unit
  /-- A datum of a well-known type. -/
  | atom (value : Atom)
  /-- A text. -/
  | text (holding : TextHolding) (content : String)
  /-- A byte sequence. -/
  | bytes (holding : ByteHolding) (content : List UInt8)
  /-- An absent value of an optional type, with the type of what could be present. -/
  | absent (content : TypeRef)
  /-- A present value of an optional type. -/
  | present (content : Value)
  /-- A transparent wrapper of a type of a full name. -/
  | pointer (fullName : String) (content : Value)
  /-- A collection of a type of a full name. -/
  | collection (fullName : String) (brackets : Brackets) (elements : List Value)
  /-- A mapping of a type of a full name. -/
  | mapping (fullName : String) (key : KeyType) (entries : List (Value × Value))
  /-- An ad-hoc object without a type of its own. -/
  | anonymous (fields : List (String × Value))
  /-- A description of a type, with the diagnostic text of the number that the type has. -/
  | typeInfo (type : TypeRef) (id : String := "")
  /-- A description of a member of a type. -/
  | memberInfo (declaringType name : String)
  /-- A function of a signature at an address. -/
  | function (signature : String) (address : Nat := 0)
  /-- A wrapped function of a signature. -/
  | callback (signature : String)
  /-- A value of a caller's type of a full name. -/
  | object (fullName : String) (exposure : Exposure Value)

instance : Inhabited Value := ⟨.unit⟩

/-- The objects that members may lead to. -/
abbrev Objects := Nat → Value

namespace Member

/-- Whether the member cannot be read without arguments. -/
def isIndexer {V : Type} (member : Member V) : Bool :=
  match member.source with
  | .indexer => true
  | _ => false

/-- What reading the member gives. -/
def read {V : Type} (member : Member V) : Reading V :=
  match member.source with
  | .field content => .value content
  | .getter reading => reading
  | .indexer =>
    .failed (.memberAccess member.name "indexed members cannot be read without arguments")

/-- How the member is read, in one word. -/
def kind {V : Type} (member : Member V) : String :=
  match member.source with
  | .field _ => "field"
  | .getter _ => "getter"
  | .indexer => "indexer"

/-- Diagnostic text of the member. -/
def debug {V : Type} (member : Member V) : String :=
  "Member \x7b name: " ++ Quoted.text member.name ++ ", kind: " ++ Quoted.text member.kind ++
    " \x7d"

end Member

namespace MappingView

/-- Diagnostic text of the mapping, which leaves out its entries. -/
def debug {V : Type} (mapping : MappingView V) : String :=
  "Mapping \x7b key_type: " ++ Quoted.text mapping.key.type.fullName ++ ", key_is_enum: " ++
    Atom.boolText mapping.key.isEnum ++ ", .. \x7d"

end MappingView

namespace Value

/-- Type of the bytes of a byte sequence. -/
private def byteType : IntegerType := .nat .bits8

/-- A byte as an integer. -/
def byteInteger (byte : UInt8) : Integer where
  type := byteType
  value := byte.toNat
  held := by
    have := byte.toNat_lt
    simp [IntegerType.Holds, IntegerType.least, IntegerType.greatest, IntegerType.bits,
      byteType, IntegerWidth.bits]
    omega

/-- A byte as a value. -/
def ofByte (byte : UInt8) : Value :=
  atom (.integer (byteInteger byte))

/-- The type of a byte sequence of a length. -/
def byteSequenceType (holding : ByteHolding) (length : Nat) : TypeRef :=
  match holding with
  | .buffer => .named "bytes::bytes::Bytes"
  | .slice => .named "&[u8]"
  | .vector => .named "alloc::vec::Vec<u8>"
  | .array => .named ("[u8; " ++ String.ofList (Digits.decimal length) ++ "]")

/-- The type of a value. -/
def type : Value → TypeRef
  | unit => .scalar .unit
  | atom value => .scalar value.type
  | text holding _ => .scalar (.text holding)
  | bytes holding content => byteSequenceType holding content.length
  | absent content => .optional content
  | present content => .optional content.type
  | pointer fullName _ => .named fullName
  | collection fullName _ _ => .named fullName
  | mapping fullName _ _ => .named fullName
  | anonymous _ => .named "Anonymous"
  | typeInfo _ _ => .named "TypeInfo"
  | memberInfo _ _ => .named "MemberInfo"
  | function signature _ => .named signature
  | callback signature => .named ("Callback<" ++ signature ++ ">")
  | object fullName _ => .named fullName

/-- The name of a value's type as a log shows it; wrappers and optional values show that of their
content. -/
def typeName : Value → String
  | absent content => shortTypeName content.fullName
  | present content => content.typeName
  | pointer _ content => content.typeName
  | anonymous _ => ""
  | object _ exposure => exposure.typeName
  | other => shortTypeName other.type.fullName

/-- The content of a transparent wrapper. -/
def wrapped? : Value → Option Value
  | pointer _ content => some content
  | object _ exposure => exposure.wrapped
  | _ => none

/-- The content of an optional value, which may be absent. -/
def optional? : Value → Option (Option Value)
  | absent _ => some none
  | present content => some (some content)
  | object _ exposure => exposure.optional
  | _ => none

/-- The named constant that a value is. -/
def constant? : Value → Option EnumConstant
  | object _ exposure => exposure.constant
  | _ => none

/-- The bytes that a value says to be. -/
def exposedBytes? : Value → Option (List UInt8)
  | bytes .vector _ => none
  | bytes _ content => some content
  | object _ exposure => exposure.bytes
  | _ => none

/-- The bytes that a value is, a vector of bytes included. -/
def bytes? : Value → Option (List UInt8)
  | bytes .vector content => some content
  | other => other.exposedBytes?

/-- The signature of a function. -/
def callable? : Value → Option String
  | function signature _ => some signature
  | callback signature => some signature
  | object _ exposure => exposure.callable
  | _ => none

/-- The name of a described type or member. -/
def descriptor? : Value → Option String
  | typeInfo type _ => some type.fullName
  | memberInfo declaringType name => some (declaringType ++ "." ++ name)
  | object _ exposure => exposure.descriptor
  | _ => none

/-- The elements of a collection in order. -/
def elements? : Value → Option (List Value)
  | bytes .vector content => some (content.map ofByte)
  | bytes .array content => some (content.map ofByte)
  | collection _ _ elements => some elements
  | object _ exposure => exposure.elements
  | _ => none

/-- The entries of a mapping. -/
def mapping? : Value → Option (MappingView Value)
  | mapping _ key entries => some ⟨key, entries⟩
  | object _ exposure => exposure.mapping
  | _ => none

/-- The readable members in order. -/
def members? : Value → Option (List (Member Value))
  | anonymous fields => some (fields.map fun (name, content) => ⟨name, .field content⟩)
  | object _ exposure => exposure.members
  | _ => none

/-- The scalar that keeps a value as it is, if its type can be registered for that. -/
def custom? : Value → Option CustomScalar
  | object _ exposure => exposure.custom
  | _ => none

/-- The content of a text that is held as a text of its own or as a reference to one. -/
def plainText? : Value → Option String
  | text .owned content => some content
  | text .borrowed content => some content
  | _ => none

end Value

end LogTree
