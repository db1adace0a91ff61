/-!
# Written digits

Digit strings as lists of characters: decimal and hexadecimal digits of a natural number, padding
to a width, and the grouping of integral digits by threes.
-/

namespace LogTree.Digits

/-- Decimal digits of a natural number, most significant first. -/
def decimal (value : Nat) : List Char :=
  Nat.toDigits 10 value

/-- Decimal digits of an integer, with a minus sign before those of a negative one. -/
def signed (value : Int) : List Char :=
  (if value < 0 then ['-'] else []) ++ decimal value.natAbs

/-- Hexadecimal digits of a natural number in lower case. -/
def lowerHex (value : Nat) : List Char :=
  Nat.toDigits 16 value

/-- Hexadecimal digits of a natural number in upper case. -/
def upperHex (value : Nat) : List Char :=
  (Nat.toDigits 16 value).map Char.toUpper

/-- The text with as many leading copies of `fill` as it needs to be `width` characters long. -/
def padded (width : Nat) (fill : Char) (text : List Char) : List Char :=
  List.replicate (width - text.length) fill ++ text

/-- Decimal digits with leading zeros up to a width. -/
def zeroPadded (width value : Nat) : List Char :=
  padded width '0' (decimal value)

/-- Digits with a separator before each position at which a positive multiple of three remains. -/
def grouped (separator : Char) : List Char → List Char
  | [] => []
  | digit :: rest =>
    if rest ≠ [] ∧ rest.length % 3 = 0 then digit :: separator :: grouped separator rest
    else digit :: grouped separator rest

theorem isDigit_of_mem_decimal {value : Nat} {digit : Char} (among : digit ∈ decimal value) :
    digit.isDigit :=
  Nat.isDigit_of_mem_toDigits (by decide) (by decide) among

theorem isDigit_of_mem_zeroPadded {width value : Nat} {digit : Char}
    (among : digit ∈ zeroPadded width value) : digit.isDigit := by
  rcases List.mem_append.mp among with filling | written
  · rw [List.eq_of_mem_replicate filling]
    rfl
  · exact isDigit_of_mem_decimal written

@[simp]
theorem length_padded (width : Nat) (fill : Char) (text : List Char) :
    (padded width fill text).length = max width text.length := by
  simp [padded]
  omega

/-- Padding changes nothing once the width is reached. -/
theorem padded_of_le {width : Nat} {fill : Char} {text : List Char} (long : width ≤ text.length) :
    padded width fill text = text := by
  simp [padded, Nat.sub_eq_zero_of_le long]

end LogTree.Digits
