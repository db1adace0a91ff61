import LogTree.Text.Hex

/-!
# Network addresses

Addresses of the two versions of the internet protocol and sockets at them. The longest run of zero
groups of a version 6 address is written as two colons.
-/

namespace LogTree

attribute [local instance (high)] instPowNat

/-- An internet address. -/
inductive IpAddress where
  /-- An address of version 4. -/
  | v4 (bits : BitVec 32)
  /-- An address of version 6. -/
  | v6 (bits : BitVec 128)
deriving DecidableEq, Repr

namespace IpAddress

/-- The digits of `count` equally wide parts of a number, most significant first. -/
private def parts (count width number : Nat) : List Nat :=
  (List.range count).reverse.map fun index => number / 2 ^ (width * index) % 2 ^ width

/-- Texts with a separator between neighbours. -/
private def joined (separator : Char) (texts : List (List Char)) : List Char :=
  (texts.intersperse [separator]).flatten

/-- Four octets with points between them. -/
private def octetsText (number : Nat) : List Char :=
  joined '.' ((parts 4 8 number).map Digits.decimal)

/-- Groups with colons between them. -/
private def groupsText (groups : List Nat) : List Char :=
  joined ':' (groups.map Digits.lowerHex)

/-- Start and length of the first of the longest runs of zero groups; `index` is the position of the
first group, `current` the length of the run that ends just before it. -/
private def longestZeros : List Nat → (index current : Nat) → Nat × Nat → Nat × Nat
  | [], _, _, longest => longest
  | group :: groups, index, current, longest =>
    if group = 0 then
      let run := (index - current, current + 1)
      longestZeros groups (index + 1) (current + 1) (if longest.2 < run.2 then run else longest)
    else longestZeros groups (index + 1) 0 longest

/-- The eight groups, the longest run of at least two zero groups left out. -/
private def compressedText (groups : List Nat) : List Char :=
  let (start, length) := longestZeros groups 0 0 (0, 0)
  if 1 < length then
    groupsText (groups.take start) ++ [':', ':'] ++ groupsText (groups.drop (start + length))
  else groupsText groups

/-- Whether an address of version 6 stands for one of version 4. -/
private def isMapped (number : Nat) : Bool :=
  number / 2 ^ (32 : Nat) = 0xFFFF

/-- Characters of an address. -/
def chars : IpAddress → List Char
  | v4 bits => octetsText bits.toNat
  | v6 bits =>
    if isMapped bits.toNat then
      [':', ':', 'f', 'f', 'f', 'f', ':'] ++ octetsText (bits.toNat % 2 ^ (32 : Nat))
    else compressedText (parts 8 16 bits.toNat)

/-- Text of an address. -/
def text (address : IpAddress) : String :=
  String.ofList address.chars

/-- Value of decimal digits that may not exceed a greatest value. -/
def decimal? (greatest : Nat) (digits : List Char) : Option Nat :=
  if digits ≠ [] ∧ digits.all Char.isDigit then
    let value := Nat.ofDigitChars 10 digits 0
    if value ≤ greatest then some value else none
  else none

/-- The pieces of a text between separators. -/
def pieces (separator : Char) : List Char → List (List Char)
  | [] => [[]]
  | character :: rest =>
    if character = separator then [] :: pieces separator rest
    else match pieces separator rest with
      | [] => [[character]]
      | piece :: further => (character :: piece) :: further

/-- Value of an octet, which has no zeros in front. -/
private def octet? (digits : List Char) : Option Nat :=
  if digits.length ≤ 3 ∧ (digits.length = 1 ∨ digits.head? ≠ some '0') then decimal? 255 digits
  else none

/-- Number of four octets. -/
private def octets? (text : List Char) : Option Nat := do
  let octets ← (pieces '.' text).mapM octet?
  guard (octets.length = 4)
  return octets.foldl (fun number octet => 256 * number + octet) 0

/-- Value of a group of at most four digits. -/
private def group? (digits : List Char) : Option Nat :=
  if digits.length ≤ 4 then Hex.number? digits else none

/-- Groups of pieces, the last of which may be an address of version 4. -/
private def groups? : List (List Char) → Option (List Nat)
  | [] => some []
  | [last] =>
    match octets? last with
    | some number => some [number / 65536, number % 65536]
    | none => (group? last).map ([·])
  | piece :: further => do return (← group? piece) :: (← groups? further)

/-- Groups of one side of two colons; an empty side has none. -/
private def side? (text : List Char) : Option (List Nat) :=
  if text = [] then some [] else groups? (pieces ':' text)

/-- The texts before and after the first two colons. -/
private def splitAtColons : List Char → Option (List Char × List Char)
  | [] => none
  | ':' :: ':' :: rest => some ([], rest)
  | character :: rest =>
    (splitAtColons rest).map fun (before, behind) => (character :: before, behind)

/-- The number that eight groups make. -/
private def ofGroups (groups : List Nat) : IpAddress :=
  v6 (BitVec.ofNat 128 (groups.foldl (fun number group => 65536 * number + group) 0))

/-- The address of version 6 that a text stands for. -/
def ofChars6? (text : List Char) : Option IpAddress :=
  match splitAtColons text with
  | none => do
    let groups ← groups? (pieces ':' text)
    guard (groups.length = 8)
    return ofGroups groups
  | some (before, behind) => do
    guard (!before.contains '.')
    let front ← side? before
    let back ← side? behind
    guard (front.length + back.length < 8)
    return ofGroups (front ++ List.replicate (8 - front.length - back.length) 0 ++ back)

/-- The address that a text stands for. -/
def ofChars? (text : List Char) : Option IpAddress :=
  match octets? text with
  | some number => some (v4 (BitVec.ofNat 32 number))
  | none => ofChars6? text

/-- The address that a text stands for. -/
def ofText? (text : String) : Option IpAddress :=
  ofChars? text.toList

end IpAddress

/-- A socket at an internet address. -/
inductive SocketAddress where
  /-- At an address of version 4, with the number of the endpoint there. -/
  | v4 (bits : BitVec 32) (endpoint : UInt16)
  /-- At an address of version 6, with the number of the endpoint there, the label of a flow and the
  number of the scope that the address belongs to. -/
  | v6 (bits : BitVec 128) (endpoint : UInt16) (flow scope : UInt32)
deriving DecidableEq, Repr

namespace SocketAddress

/-- The address, in brackets if it is of version 6, and the endpoint number after a colon; the label
of a flow is not shown. -/
def text : SocketAddress → String
  | v4 bits endpoint =>
    String.ofList ((IpAddress.v4 bits).chars ++ ':' :: Digits.decimal endpoint.toNat)
  | v6 bits endpoint _ scope =>
    let scopeText := if scope = 0 then [] else '%' :: Digits.decimal scope.toNat
    String.ofList ('[' :: (IpAddress.v6 bits).chars ++ scopeText ++ [']', ':'] ++
      Digits.decimal endpoint.toNat)

/-- The socket of an address of version 6, an endpoint and a scope. -/
private def at6? (address : List Char) (endpoint scope : Nat) : Option SocketAddress :=
  match IpAddress.ofChars6? address with
  | some (.v6 bits) => some (v6 bits (UInt16.ofNat endpoint) 0 (UInt32.ofNat scope))
  | _ => none

/-- The socket of an address of version 6 and a scope in brackets. -/
private def bracketed? (inside endpoint : List Char) : Option SocketAddress := do
  let number ← IpAddress.decimal? 65535 endpoint
  match IpAddress.pieces '%' inside with
  | [address] => at6? address number 0
  | [address, scope] => at6? address number (← IpAddress.decimal? 4294967295 scope)
  | _ => none

/-- The socket that a text stands for. -/
def ofText? (text : String) : Option SocketAddress :=
  match text.toList with
  | '[' :: rest =>
    let inside := rest.takeWhile (· ≠ ']')
    match rest.drop inside.length with
    | ']' :: ':' :: endpoint => bracketed? inside endpoint
    | _ => none
  | characters => do
    match IpAddress.pieces ':' characters with
    | [address, endpoint] =>
      let number ← IpAddress.decimal? 65535 endpoint
      match IpAddress.ofChars? address with
      | some (.v4 bits) => return v4 bits (UInt16.ofNat number)
      | _ => none
    | _ => none

end SocketAddress

end LogTree
