import LogTree.Value.Text

/-!
# Values of common types

Pointers, collections and mappings of the types that values are usually held in. Sorted collections
keep their elements in the order of the elements' type; collections that keep the order of insertion
leave an element or a key where it was first put.
-/

namespace LogTree

namespace Atom

/-- An atom as numbers whose lexicographic order is the order of the atom's type. -/
def sortKey : Atom → List Int
  | bool value => [if value then 1 else 0]
  | char value => [value.toNat]
  | integer value => [value.value]
  | single bits => [bits.toNat]
  | double bits => [bits.toNat]
  | instant moment => momentKey moment
  | offsetDateTime moment => momentKey moment.universal
  | localDateTime moment => momentKey moment
  | date value => [value.dayNumber]
  | time value => [value.secondOfDay, value.nanosecond]
  | duration value => [value.seconds, value.nanoseconds]
  | timeDelta value => [value.seconds, value.nanoseconds]
  | uuid value => [value.bits.toNat]
  | ip value => addressKey value
  | socket value => socketKey value
  | path value => value.components.flatMap componentKey
where
  /-- A moment as numbers. -/
  momentKey (moment : DateTime) : List Int :=
    [moment.date.dayNumber, moment.time.secondOfDay, moment.time.nanosecond]
  /-- An address as numbers, those of version 4 coming first. -/
  addressKey : IpAddress → List Int
    | .v4 bits => [4, bits.toNat]
    | .v6 bits => [6, bits.toNat]
  /-- A socket as numbers, beginning with those of its address. -/
  socketKey : SocketAddress → List Int
    | .v4 bits endpoint => addressKey (.v4 bits) ++ [(endpoint.toNat : Int)]
    | .v6 bits endpoint flow scope =>
      addressKey (.v6 bits) ++ [(endpoint.toNat : Int), flow.toNat, scope.toNat]
  /-- A component of a path as numbers, a name being closed by a number below those of bytes. -/
  componentKey : PathComponent → List Int
    | .root => [1]
    | .current => [2]
    | .parent => [3]
    | .normal name => 4 :: name.map (fun byte => (byte.toNat + 1 : Int)) ++ [0]

end Atom

namespace Value

/-- A value as numbers whose lexicographic order is the order of the value's type. -/
def sortKey : Value → List Int
  | atom value => value.sortKey
  | text _ content => content.toList.map fun character => (character.toNat : Int)
  | bytes _ content => content.map fun byte => (byte.toNat : Int)
  | absent _ => [0]
  | present content => 1 :: content.sortKey
  | pointer _ content => content.sortKey
  | collection _ _ elements => sortKeys elements
  | object _ exposure => exposure.rank.toList
  | _ => []
where
  /-- Elements as numbers, each behind a number above that of the end. -/
  sortKeys : List Value → List Int
    | [] => [0]
    | element :: elements => 1 :: element.sortKey ++ sortKeys elements
termination_by structural value => value

/-- Whether a list of numbers comes before another one in lexicographic order. -/
def isBefore : List Int → List Int → Bool
  | _, [] => false
  | [], _ :: _ => true
  | left :: lefts, right :: rights => left < right || left == right && isBefore lefts rights

/-- Sorted entries with a value written under a key; a key that is there already stays. -/
def sortedInsert {Content : Type} (key : Value) (content : Content) :
    List (Value × Content) → List (Value × Content)
  | [] => [(key, content)]
  | entry :: entries =>
    if isBefore key.sortKey entry.1.sortKey then (key, content) :: entry :: entries
    else if isBefore entry.1.sortKey key.sortKey then entry :: sortedInsert key content entries
    else (entry.1, content) :: entries

/-- Entries in order of insertion with a value written under a key; a key that is there already
stays. -/
def orderedInsert {Content : Type} (key : Value) (content : Content) :
    List (Value × Content) → List (Value × Content)
  | [] => [(key, content)]
  | entry :: entries =>
    if entry.1.sortKey = key.sortKey then (entry.1, content) :: entries
    else entry :: orderedInsert key content entries

/-- Sorted entries of pairs that are written one after the other. -/
def sortedEntries {Content : Type} (pairs : List (Value × Content)) : List (Value × Content) :=
  pairs.foldl (fun entries pair => sortedInsert pair.1 pair.2 entries) []

/-- Entries in order of insertion of pairs that are written one after the other. -/
def orderedEntries {Content : Type} (pairs : List (Value × Content)) :
    List (Value × Content) :=
  pairs.foldl (fun entries pair => orderedInsert pair.1 pair.2 entries) []

/-- Elements without repetition that a way of writing entries leaves. -/
private def distinct (write : List (Value × Unit) → List (Value × Unit))
    (elements : List Value) : List Value :=
  (write (elements.map fun element => (element, ()))).map (·.1)

/-- A pointer with a single owner. -/
def boxed (content : Value) : Value :=
  pointer (TypeRef.applied "alloc::boxed::Box" [content.type]).fullName content

/-- A pointer with many owners. -/
def shared (content : Value) : Value :=
  pointer (TypeRef.applied "alloc::rc::Rc" [content.type]).fullName content

/-- A pointer with many owners that may run at once. -/
def sharedAcross (content : Value) : Value :=
  pointer (TypeRef.applied "alloc::sync::Arc" [content.type]).fullName content

/-- The bytes that values are, if all of them are bytes. -/
private def byteContent? (elements : List Value) : Option (List UInt8) :=
  elements.mapM fun
    | atom (.integer value) => some (UInt8.ofNat value.value.toNat)
    | _ => none

/-- Whether a type is that of bytes. -/
private def isByteType (type : TypeRef) : Bool :=
  type = .scalar (.integer (.nat .bits8))

/-- A vector of elements of a type; one of bytes is a byte sequence. -/
def vector (elementType : TypeRef) (elements : List Value) : Value :=
  match isByteType elementType, byteContent? elements with
  | true, some content => bytes .vector content
  | _, _ =>
    collection (TypeRef.applied "alloc::vec::Vec" [elementType]).fullName .square elements

/-- An array of elements of a type; one of bytes is a byte sequence. -/
def array (elementType : TypeRef) (elements : List Value) : Value :=
  match isByteType elementType, byteContent? elements with
  | true, some content => bytes .array content
  | _, _ =>
    collection ("[" ++ elementType.fullName ++ "; " ++
      String.ofList (Digits.decimal elements.length) ++ "]") .square elements

/-- A queue of elements of a type. -/
def queue (elementType : TypeRef) (elements : List Value) : Value :=
  collection (TypeRef.applied "alloc::collections::vec_deque::VecDeque" [elementType]).fullName
    .square elements

/-- A sorted set of elements of a type that are put in one after the other. -/
def sortedSet (elementType : TypeRef) (elements : List Value) : Value :=
  collection (TypeRef.applied "alloc::collections::btree::set::BTreeSet" [elementType]).fullName
    .curly (distinct sortedEntries elements)

/-- A set in order of insertion of elements of a type that are put in one after the other. -/
def orderedSet (elementType : TypeRef) (elements : List Value) : Value :=
  collection (TypeRef.applied "indexmap::set::IndexSet" [elementType]).fullName
    .curly (distinct orderedEntries elements)

/-- A set without order of elements of a type that are put in one after the other. -/
def hashSet (elementType : TypeRef) (elements : List Value) : Value :=
  collection (TypeRef.applied "std::collections::hash::set::HashSet" [elementType]).fullName
    .curly (distinct orderedEntries elements)

/-- A tuple of values. -/
def tuple (elements : List Value) : Value :=
  collection ("(" ++ ", ".intercalate (elements.map fun element => element.type.fullName) ++ ")")
    .round elements

/-- A sorted mapping of entries that are put in one after the other. -/
def sortedMapping (key : KeyType) (contentType : TypeRef) (pairs : List (Value × Value)) : Value :=
  mapping (TypeRef.applied "alloc::collections::btree::map::BTreeMap"
    [key.type, contentType]).fullName key (sortedEntries pairs)

/-- A mapping in order of insertion of entries that are put in one after the other. -/
def orderedMapping (key : KeyType) (contentType : TypeRef) (pairs : List (Value × Value)) :
    Value :=
  mapping (TypeRef.applied "indexmap::map::IndexMap" [key.type, contentType]).fullName
    key (orderedEntries pairs)

/-- A mapping without order of entries that are put in one after the other. -/
def hashMapping (key : KeyType) (contentType : TypeRef) (pairs : List (Value × Value)) : Value :=
  mapping (TypeRef.applied "std::collections::hash::map::HashMap"
    [key.type, contentType]).fullName key (orderedEntries pairs)

/-- A value of a caller's type that shows nothing but its texts. -/
def described (fullName text debug : String) : Value :=
  object fullName { typeName := shortTypeName fullName, text, debug }

/-- A value of a caller's type whose members are named fields. -/
def structured (fullName debug : String) (fields : List (String × Value)) : Value :=
  object fullName
    { typeName := shortTypeName fullName
      text := debug
      debug
      members := some (fields.map fun (name, content) => ⟨name, .field content⟩) }

/-- A named constant of a caller's enumerated type. -/
def enumerated (fullName : String) (constant : EnumConstant) : Value :=
  object fullName
    { typeName := shortTypeName fullName
      text := constant.name
      debug := constant.name
      constant := some constant
      rank := some constant.value.toInt }

end Value

end LogTree
