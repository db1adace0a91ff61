import LogTree.Number.Digits

/-!
# Fixed-width integers

An integer is kept with the type that holds it. The twelve types are a signedness and a width; the
range of a type is an invariant of its integers.
-/

namespace LogTree

attribute [local instance (high)] instPowNat

/-- How much room an integer type has; an address is as wide as a machine word. -/
inductive IntegerWidth where
  | bits8
  | bits16
  | bits32
  | bits64
  | bits128
  | address
deriving DecidableEq, Repr

namespace IntegerWidth

/-- Number of bits of a width. -/
def bits : IntegerWidth → Nat
  | bits8 => 8
  | bits16 => 16
  | bits32 => 32
  | bits64 => 64
  | bits128 => 128
  | address => 64

/-- What stands after the signedness letter in a type's name. -/
def suffix : IntegerWidth → String
  | bits8 => "8"
  | bits16 => "16"
  | bits32 => "32"
  | bits64 => "64"
  | bits128 => "128"
  | address => "size"

end IntegerWidth

/-- An integer type: a signedness and a width. -/
structure IntegerType where
  /-- Whether negative numbers are held, in two's complement. -/
  signed : Bool
  /-- Room of the type. -/
  width : IntegerWidth
deriving DecidableEq, Repr

namespace IntegerType

/-- Name of the type, such as `i32` or `usize`. -/
def name (type : IntegerType) : String :=
  (if type.signed then "i" else "u") ++ type.width.suffix

/-- Number of bits of the type. -/
def bits (type : IntegerType) : Nat :=
  type.width.bits

/-- Least value of the type. -/
def least (type : IntegerType) : Int :=
  if type.signed then -(2 ^ (type.bits - 1) : Int) else 0

/-- Greatest value of the type. -/
def greatest (type : IntegerType) : Int :=
  if type.signed then 2 ^ (type.bits - 1) - 1 else 2 ^ type.bits - 1

/-- Whether a number lies in the range of the type. -/
def Holds (type : IntegerType) (value : Int) : Prop :=
  type.least ≤ value ∧ value ≤ type.greatest

instance (type : IntegerType) (value : Int) : Decidable (type.Holds value) :=
  inferInstanceAs (Decidable (_ ∧ _))

/-- The signed type of a width. -/
abbrev int (width : IntegerWidth) : IntegerType := ⟨true, width⟩

/-- The unsigned type of a width. -/
abbrev nat (width : IntegerWidth) : IntegerType := ⟨false, width⟩

/-- All twelve types, signed ones first. -/
def all : List IntegerType :=
  [true, false].flatMap fun signed =>
    [.bits8, .bits16, .bits32, .bits64, .bits128, .address].map fun width => ⟨signed, width⟩

/-- The type of a name. -/
def ofName? (name : String) : Option IntegerType :=
  all.find? (·.name = name)

end IntegerType

/-- A number in words of 128 bits, as the formats take it apart. -/
structure IntegerParts where
  /-- Whether the number is below zero. -/
  negative : Bool
  /-- Its absolute value. -/
  magnitude : BitVec 128
  /-- The bits that stand for it in its type, with zeros before them. -/
  bits : BitVec 128
deriving DecidableEq, Repr

namespace IntegerParts

/-- A word whose last bits are ones. -/
def mask (width : Nat) : BitVec 128 :=
  if 128 ≤ width then BitVec.allOnes 128 else (1#128 <<< width) - 1#128

/-- A number of a signed type of a width. -/
def ofSigned (value : Int) (width : Nat) : IntegerParts where
  negative := value < 0
  magnitude := BitVec.ofNat 128 value.natAbs
  bits := BitVec.ofInt 128 value &&& mask width

/-- A number of an unsigned type. -/
def ofUnsigned (value : Int) : IntegerParts where
  negative := false
  magnitude := BitVec.ofInt 128 value
  bits := BitVec.ofInt 128 value

end IntegerParts

/-- A number together with an integer type whose range it lies in. -/
structure Integer where
  /-- Type that holds the number. -/
  type : IntegerType
  /-- The number itself. -/
  value : Int
  /-- The number lies in the range of the type. -/
  held : type.Holds value
deriving DecidableEq

namespace Integer

/-- The number as an integer of the type, if it lies in the type's range. -/
def ofInt? (type : IntegerType) (value : Int) : Option Integer :=
  if held : type.Holds value then some ⟨type, value, held⟩ else none

/-- The number as the formats take it apart. -/
def parts (integer : Integer) : IntegerParts :=
  match integer.type with
  | ⟨true, .bits8⟩ => .ofSigned integer.value 8
  | ⟨true, .bits16⟩ => .ofSigned integer.value 16
  | ⟨true, .bits32⟩ => .ofSigned integer.value 32
  | ⟨true, .bits64⟩ => .ofSigned integer.value 64
  | ⟨true, .bits128⟩ => .ofSigned integer.value 128
  | ⟨true, .address⟩ => .ofSigned integer.value 64
  | ⟨false, .bits8⟩ => .ofUnsigned integer.value
  | ⟨false, .bits16⟩ => .ofUnsigned integer.value
  | ⟨false, .bits32⟩ => .ofUnsigned integer.value
  | ⟨false, .bits64⟩ => .ofUnsigned integer.value
  | ⟨false, .bits128⟩ => .ofUnsigned integer.value
  | ⟨false, .address⟩ => .ofUnsigned integer.value

/-- Absolute value of the number. -/
def magnitude (integer : Integer) : Nat :=
  integer.parts.magnitude.toNat

/-- The bit pattern of the number in its type, two's complement for negative numbers. -/
def pattern (integer : Integer) : Nat :=
  integer.parts.bits.toNat

/-- A minus sign for a number below zero, and nothing otherwise. -/
def sign (integer : Integer) : List Char :=
  if integer.parts.negative then ['-'] else []

/-- Plain decimal text. -/
def text (integer : Integer) : String :=
  String.ofList (Digits.signed integer.value)

end Integer

end LogTree
