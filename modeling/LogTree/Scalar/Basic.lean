import LogTree.Identity.Address
import LogTree.Identity.PathName
import LogTree.Identity.Uuid
import LogTree.Number.FloatText
import LogTree.Number.Integer
import LogTree.Time.Span

/-!
# Scalars

A scalar is a datum without parts: nothing, an atom of one of the well-known types, a text, a named
constant, or a value of a type that was registered to be kept as it is. Floating point numbers are
the same if their bit patterns are, moments at an offset if the moments are, paths if their
components are.
-/

namespace LogTree

/-- A named constant of an enumerated type. -/
structure EnumConstant where
  /-- Name of the enumerated type. -/
  typeName : String
  /-- Name of the constant. -/
  name : String
  /-- Number of the constant. -/
  value : Int64
deriving DecidableEq, Repr

/-- A value of a registered type, kept as it is. The type says which of its values are the same, and
it may have values that are not the same as themselves. -/
structure CustomScalar where
  /-- Name of the registered type. -/
  typeName : String
  /-- What the value has in common with the values that are the same, if it is the same as itself,
  and empty otherwise. -/
  key : String
  /-- Text of the value. -/
  text : String
  /-- Diagnostic text of the value. -/
  debug : String
deriving Repr

/-- Values of registered types are the same if their types and their keys are, and if they are the
same as themselves at all. -/
instance : BEq CustomScalar where
  beq left right := left.typeName == right.typeName && left.key == right.key && left.key != ""

/-- A datum of a well-known type. -/
inductive Atom where
  | bool (value : Bool)
  | char (value : Char)
  | integer (value : Integer)
  /-- The bit pattern of a 32-bit floating point number. -/
  | single (bits : UInt32)
  /-- The bit pattern of a 64-bit floating point number. -/
  | double (bits : UInt64)
  /-- A moment in universal time. -/
  | instant (moment : DateTime)
  /-- A moment with the offset at which it is shown. -/
  | offsetDateTime (moment : OffsetDateTime)
  /-- A date and time of day that no offset is known for. -/
  | localDateTime (moment : DateTime)
  | date (value : Date)
  | time (value : TimeOfDay)
  | duration (value : Duration)
  | timeDelta (value : TimeDelta)
  | uuid (value : Uuid)
  | ip (value : IpAddress)
  | socket (value : SocketAddress)
  | path (value : PathName)
deriving BEq

/-- A datum without parts. -/
inductive Scalar where
  /-- Nothing. -/
  | null
  | atom (value : Atom)
  | text (content : String)
  | constant (value : EnumConstant)
  | custom (value : CustomScalar)
deriving BEq

/-- What a 32-bit pattern stands for. -/
def singleDatum (bits : UInt32) : FloatDatum :=
  BinaryFormat.single.decode bits.toNat

/-- What a 64-bit pattern stands for. -/
def doubleDatum (bits : UInt64) : FloatDatum :=
  BinaryFormat.double.decode bits.toNat

namespace Atom

/-- Text of a truth value. -/
def boolText (value : Bool) : String :=
  if value then "true" else "false"

/-- Diagnostic text of an atom, which tells more of its type than the plain one. -/
def debug : Atom → String
  | bool value => boolText value
  | char value => Quoted.character value
  | integer value => value.text
  | single bits => (singleDatum bits).text .single .debug
  | double bits => (doubleDatum bits).text .double .debug
  | instant moment => (moment.text 'T').push 'Z'
  | offsetDateTime moment => moment.debugText
  | localDateTime moment => moment.text 'T'
  | date value => value.text
  | time value => value.text
  | duration value => value.text
  | timeDelta value =>
    "TimeDelta \x7b secs: " ++ String.ofList (Digits.signed value.seconds) ++ ", nanos: " ++
      String.ofList (Digits.decimal value.nanoseconds) ++ " \x7d"
  | uuid value => value.text
  | ip value => value.text
  | socket value => value.text
  | path value => value.debugText

/-- Text of an atom as its type shows it in a log. A duration has no text of its own there and is
shown by its diagnostic text. -/
def text : Atom → String
  | bool value => boolText value
  | char value => String.singleton value
  | integer value => value.text
  | single bits => (singleDatum bits).text .single .plain
  | double bits => (doubleDatum bits).text .double .plain
  | instant moment => OffsetDateTime.text ⟨moment, 0⟩
  | offsetDateTime moment => moment.text
  | localDateTime moment => moment.text ' '
  | date value => value.text
  | time value => value.text
  | duration value => debug (duration value)
  | timeDelta value => value.text
  | uuid value => value.text
  | ip value => value.text
  | socket value => value.text
  | path value => value.text

end Atom

namespace Scalar

/-- Whether the scalar is nothing. -/
def isNull : Scalar → Bool
  | null => true
  | _ => false

/-- Content of a text. -/
def text? : Scalar → Option String
  | text content => some content
  | _ => none

/-- The integer that the scalar holds. -/
def integer? : Scalar → Option Integer
  | atom (.integer value) => some value
  | _ => none

/-- Plain text of a scalar, without quotation marks. It is made by kind of scalar and not by the
type that the scalar was captured from. -/
def display : Scalar → String
  | null => "null"
  | atom (.bool value) => Atom.boolText value
  | atom (.char value) => String.singleton value
  | atom (.integer value) => value.text
  | atom (.single bits) => (singleDatum bits).text .single .plain
  | atom (.double bits) => (doubleDatum bits).text .double .plain
  | text content => content
  | atom (.instant moment) => OffsetDateTime.text ⟨moment, 0⟩
  | atom (.offsetDateTime moment) => moment.text
  | atom (.localDateTime moment) => moment.text ' '
  | atom (.date value) => value.text
  | atom (.time value) => value.text
  | atom (.duration value) => value.text
  | atom (.timeDelta value) => value.text
  | atom (.uuid value) => value.text
  | atom (.ip value) => value.text
  | atom (.socket value) => value.text
  | atom (.path value) => value.text
  | constant value => value.name
  | custom value => value.text

end Scalar

end LogTree
