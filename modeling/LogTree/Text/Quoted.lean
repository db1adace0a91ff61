import LogTree.Text.Hex
import LogTree.Text.Printable

/-!
# Quoted text

Diagnostic quotation: a backslash before the quotes and before itself, short names for the common
control characters, and the code point of every other character that cannot be printed.
-/

namespace LogTree.Quoted

/-- Which of the two quotation marks are escaped. -/
structure Marks where
  /-- Whether the apostrophe is escaped. -/
  single : Bool
  /-- Whether the double quotation mark is escaped. -/
  double : Bool

/-- A character as it stands between quotation marks. -/
def escaped (marks : Marks) (character : Char) : List Char :=
  match character with
  | '\x00' => ['\\', '0']
  | '\t' => ['\\', 't']
  | '\r' => ['\\', 'r']
  | '\n' => ['\\', 'n']
  | '\\' => ['\\', '\\']
  | '"' => if marks.double then ['\\', '"'] else ['"']
  | '\'' => if marks.single then ['\\', '\''] else ['\'']
  | other =>
    if isPrintable other then [other]
    else ['\\', 'u', '\x7b'] ++ Digits.lowerHex other.toNat ++ ['\x7d']

/-- A text between double quotation marks. -/
def text (content : String) : String :=
  String.ofList ('"' :: content.toList.flatMap (escaped ⟨false, true⟩) ++ ['"'])

/-- A character between apostrophes. -/
def character (content : Char) : String :=
  String.ofList ('\'' :: escaped ⟨true, false⟩ content ++ ['\''])

/-- A byte as it stands in a byte string. -/
def escapedByte (byte : UInt8) : List Char :=
  if byte = 0x0A then ['\\', 'n']
  else if byte = 0x0D then ['\\', 'r']
  else if byte = 0x09 then ['\\', 't']
  else if byte = 0x5C then ['\\', '\\']
  else if byte = 0x22 then ['\\', '"']
  else if byte = 0x00 then ['\\', '0']
  else if 0x20 ≤ byte ∧ byte < 0x7F then [Char.ofNat byte.toNat]
  else ['\\', 'x'] ++ Hex.lowerByte byte

/-- A byte string: quotation marks with a letter before them. -/
def byteString (content : List UInt8) : String :=
  String.ofList (['b', '"'] ++ content.flatMap escapedByte ++ ['"'])

end LogTree.Quoted
