import LogTree.Number.Digits

/-!
# Hexadecimal text of bytes

Two digits for each byte, the high half first, and the reading of such text.
-/

namespace LogTree.Hex

/-- Upper-case digit of a value below sixteen. -/
def upperDigit (value : Nat) : Char :=
  (Nat.digitChar value).toUpper

/-- The two upper-case digits of a byte. -/
def upperByte (byte : UInt8) : List Char :=
  [upperDigit (byte.toNat / 16), upperDigit (byte.toNat % 16)]

/-- The two lower-case digits of a byte. -/
def lowerByte (byte : UInt8) : List Char :=
  [Nat.digitChar (byte.toNat / 16), Nat.digitChar (byte.toNat % 16)]

/-- Upper-case digits of a byte sequence. -/
def upper (bytes : List UInt8) : List Char :=
  bytes.flatMap upperByte

/-- Lower-case digits of a byte sequence. -/
def lower (bytes : List UInt8) : List Char :=
  bytes.flatMap lowerByte

/-- Value of a hexadecimal digit in either case. -/
def digitValue? (digit : Char) : Option Nat :=
  if '0' ≤ digit ∧ digit ≤ '9' then some (digit.toNat - '0'.toNat)
  else if 'a' ≤ digit ∧ digit ≤ 'f' then some (digit.toNat - 'a'.toNat + 10)
  else if 'A' ≤ digit ∧ digit ≤ 'F' then some (digit.toNat - 'A'.toNat + 10)
  else none

/-- The bytes that a text of digit pairs stands for. -/
def bytes? : List Char → Option (List UInt8)
  | [] => some []
  | [_] => none
  | high :: low :: rest => do
    let highValue ← digitValue? high
    let lowValue ← digitValue? low
    let bytes ← bytes? rest
    return UInt8.ofNat (16 * highValue + lowValue) :: bytes

/-- The number that a text of hexadecimal digits stands for. -/
def number? (digits : List Char) : Option Nat :=
  if digits.isEmpty then none
  else digits.foldlM (fun value digit => return 16 * value + (← digitValue? digit)) 0

end LogTree.Hex
