import LogTree.Text.Hex

/-!
# Universally unique identifiers

A number of 128 bits, written as thirty-two digits in five groups.
-/

namespace LogTree

/-- A universally unique identifier. -/
structure Uuid where
  /-- The bits of the identifier. -/
  bits : BitVec 128
deriving DecidableEq, Repr

namespace Uuid

/-- Lengths of all groups of digits but the last one. -/
private def groupLengths : List Nat := [8, 4, 4, 4]

/-- Digits with a hyphen after each group. -/
private def hyphenated : List Nat → List Char → List Char
  | [], digits => digits
  | length :: lengths, digits =>
    digits.take length ++ '-' :: hyphenated lengths (digits.drop length)

/-- The five groups of digits in lower case. -/
def text (uuid : Uuid) : String :=
  String.ofList (hyphenated groupLengths
    (Digits.padded 32 '0' (Digits.lowerHex uuid.bits.toNat)))

/-- The identifier of thirty-two digits, hyphens being passed over. -/
def ofText? (text : String) : Option Uuid := do
  let digits := text.toList.filter (· ≠ '-')
  guard (digits.length = 32)
  let number ← Hex.number? digits
  return ⟨BitVec.ofNat 128 number⟩

end Uuid

end LogTree
