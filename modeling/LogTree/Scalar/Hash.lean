import LogTree.Scalar.Basic

/-!
# Hashes of scalars

A hash table compares a key only with those that have its hash. What a hasher is given of a scalar
is the place of the scalar's variant and then what the variant holds, in the form in which it is
compared: floating point numbers by their bits, moments without their offset, paths by their
components.
-/

namespace LogTree

/-- Something that a hasher is given. -/
inductive HashInput where
  /-- The place of a variant in its type. -/
  | variant (place : Nat)
  | number (value : Int)
  | text (content : String)
  | bytes (content : List UInt8)
deriving DecidableEq, Repr

namespace Atom

/-- The place of an atom's variant among those of scalars. -/
def variant : Atom → Nat
  | bool _ => 1
  | char _ => 2
  | integer value => 3 + IntegerType.all.idxOf value.type
  | single _ => 15
  | double _ => 16
  | instant _ => 18
  | offsetDateTime _ => 19
  | localDateTime _ => 20
  | date _ => 21
  | time _ => 22
  | duration _ => 23
  | timeDelta _ => 24
  | uuid _ => 25
  | ip _ => 26
  | socket _ => 27
  | path _ => 28

/-- What a hasher is given of an atom behind its variant. -/
def hashed : Atom → List HashInput
  | bool value => [.number (if value then 1 else 0)]
  | char value => [.number value.toNat]
  | integer value => [.number value.value]
  | single bits => [.number bits.toNat]
  | double bits => [.number bits.toNat]
  | instant moment => momentInput moment
  | offsetDateTime moment => momentInput moment.universal
  | localDateTime moment => momentInput moment
  | date value => [.number value.dayNumber]
  | time value => timeInput value
  | duration value => [.number value.seconds, .number value.nanoseconds]
  | timeDelta value => [.number value.seconds, .number value.nanoseconds]
  | uuid value => [.number value.bits.toNat]
  | ip (.v4 bits) => [.variant 0, .number bits.toNat]
  | ip (.v6 bits) => [.variant 1, .number bits.toNat]
  | socket (.v4 bits endpoint) => [.variant 0, .number bits.toNat, .number endpoint.toNat]
  | socket (.v6 bits endpoint flow scope) =>
    [.variant 1, .number bits.toNat, .number endpoint.toNat, .number flow.toNat,
      .number scope.toNat]
  | path value => value.components.flatMap componentInput
where
  /-- What is given of a time of day. -/
  timeInput (time : TimeOfDay) : List HashInput :=
    [.number time.secondOfDay, .number time.nanosecond]
  /-- What is given of a moment. -/
  momentInput (moment : DateTime) : List HashInput :=
    .number moment.date.dayNumber :: timeInput moment.time
  /-- What is given of a component of a path; separators are passed over. -/
  componentInput : PathComponent → List HashInput
    | .root => []
    | .current => [.bytes [0x2E]]
    | .parent => [.bytes [0x2E, 0x2E]]
    | .normal name => [.bytes name]

end Atom

namespace Scalar

/-- What a hasher is given of a scalar. -/
def hashed : Scalar → List HashInput
  | null => [.variant 0]
  | atom value => .variant value.variant :: value.hashed
  | text content => [.variant 17, .text content]
  | constant value =>
    [.variant 29, .text value.typeName, .text value.name, .number value.value.toInt]
  | custom value => [.variant 30, .text value.typeName, .text value.key]

/-- The comparison of keys by a hash table whose hasher makes a number of what it is given. -/
@[reducible]
def probing (hasher : List HashInput → UInt64) : BEq Scalar where
  beq left right := hasher left.hashed == hasher right.hashed && left == right

end Scalar

end LogTree
