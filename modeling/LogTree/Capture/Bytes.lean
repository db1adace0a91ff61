import LogTree.Text.Hex

/-!
# Byte sequences as text

A byte sequence is kept as upper-case hexadecimal digits. A long one is kept as the digits of its
first bytes and its length.
-/

namespace LogTree.ByteText

/-- Greatest length of a byte sequence of which all digits are kept. -/
def greatestLength : Nat := 1024

/-- Number of bytes whose digits are kept of a longer sequence. -/
def keptLength : Nat := 16

/-- The text of a byte sequence. -/
def encode (bytes : List UInt8) : String :=
  if greatestLength < bytes.length then
    String.ofList (Hex.upper (bytes.take keptLength)) ++ "... (" ++
      String.ofList (Digits.decimal bytes.length) ++ " bytes)"
  else String.ofList (Hex.upper bytes)

end LogTree.ByteText
