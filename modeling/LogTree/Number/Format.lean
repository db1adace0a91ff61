import LogTree.Number.FloatText
import LogTree.Number.Integer

/-!
# Numeric formats

A numeric format is a letter and an optional precision. The letter chooses a style: decimal digits,
hexadecimal digits, fixed point with or without groups, or exponential. What stands between the
digits is chosen by the separators.
-/

namespace LogTree

/-- The characters that stand between the digits of a number. -/
structure Separators where
  /-- Between integral and fractional digits. -/
  decimal : Char
  /-- Between groups of three integral digits. -/
  group : Char
deriving DecidableEq, Repr

namespace Separators

/-- The separators of no particular culture. -/
def invariant : Separators := ⟨'.', ','⟩

end Separators

/-- How a number is written. -/
inductive NumericStyle where
  /-- Decimal digits of an integer. -/
  | digits
  /-- Hexadecimal digits of an integer's bit pattern. -/
  | hex (upper : Bool)
  /-- A fixed number of decimals. -/
  | fixed (grouped : Bool)
  /-- One leading digit, a fixed number of decimals, and a power of ten. -/
  | exponential (upper : Bool)
deriving DecidableEq, Repr

namespace NumericStyle

/-- The style of a letter. -/
def ofLetter? : Char → Option NumericStyle
  | 'D' | 'd' => some digits
  | 'X' => some (hex true)
  | 'x' => some (hex false)
  | 'F' | 'f' => some (fixed false)
  | 'N' | 'n' => some (fixed true)
  | 'E' => some (exponential true)
  | 'e' => some (exponential false)
  | _ => none

end NumericStyle

/-- A style with the number of digits that it is asked for. -/
structure NumericFormat where
  /-- How the number is written. -/
  style : NumericStyle
  /-- Digits asked for, if any. -/
  precision : Option Nat
deriving DecidableEq, Repr

namespace NumericFormat

/-- Greatest number of digits that can be asked for. -/
def greatestPrecision : Nat := 99

/-- The number that a text of decimal digits stands for; a plus sign may stand before them. -/
def number? (text : List Char) : Option Nat :=
  let digits := match text with
    | '+' :: rest => rest
    | other => other
  if digits ≠ [] ∧ digits.all Char.isDigit then some (Nat.ofDigitChars 10 digits 0) else none

/-- The precision behind a letter: none, or a number that is not too great. -/
def precision? (text : List Char) : Option (Option Nat) :=
  if text = [] then some none
  else do
    let number ← number? text
    guard (number ≤ greatestPrecision)
    return some number

/-- The format that a text stands for. -/
def ofText? (text : String) : Option NumericFormat :=
  match text.toList with
  | [] => none
  | letter :: rest => do
    let style ← NumericStyle.ofLetter? letter
    let precision ← precision? rest
    return ⟨style, precision⟩

/-- Decimals that a fixed point format has by default. -/
def fixedPlaces (format : NumericFormat) : Nat := format.precision.getD 2

/-- Decimals that an exponential format has by default. -/
def exponentialPlaces (format : NumericFormat) : Nat := format.precision.getD 6

/-- Digits that a digit format is padded to. -/
def width (format : NumericFormat) : Nat := format.precision.getD 0

end NumericFormat

/-- Integral digits, in groups if asked for, and fractional digits behind the decimal separator. -/
def fixedText (separators : Separators) (grouped : Bool) (integral fraction : List Char) :
    List Char :=
  (if grouped then Digits.grouped separators.group integral else integral) ++
    if fraction = [] then [] else separators.decimal :: fraction

/-- A nonnegative number with one leading digit, some decimals and a power of ten. -/
def exponentialText (separators : Separators) (upper : Bool) (places : Nat) (number : Ratio) :
    List Char :=
  let (digits, power) := number.significant places
  significandText separators.decimal digits ++ exponentText (if upper then 'E' else 'e') false power

namespace Integer

/-- The integer in a numeric format. An exponential format shows the nearest number of the 64-bit
binary format. -/
def formatted (separators : Separators) (format : NumericFormat) (integer : Integer) : List Char :=
  match format.style with
  | .digits => integer.sign ++ Digits.zeroPadded format.width integer.magnitude
  | .hex true => Digits.padded format.width '0' (Digits.upperHex integer.pattern)
  | .hex false => Digits.padded format.width '0' (Digits.lowerHex integer.pattern)
  | .fixed grouped =>
    integer.sign ++ fixedText separators grouped (Digits.decimal integer.magnitude)
      (List.replicate format.fixedPlaces '0')
  | .exponential upper =>
    integer.sign ++ exponentialText separators upper format.exponentialPlaces
      (.ofNat (BinaryFormat.double.nearest integer.magnitude))

end Integer

namespace FloatDatum

/-- The datum in a numeric format; only a finite number can be formatted, and its digits alone are
no format for it. Fixed point shows no sign before a zero. -/
def formatted? (separators : Separators) (format : NumericFormat) :
    FloatDatum → Option (List Char)
  | .finite negative magnitude =>
    match format.style with
    | .fixed grouped =>
      let (integral, fraction) := magnitude.ratio.fixed format.fixedPlaces
      some (signText (negative && magnitude.mantissa ≠ 0) ++
        fixedText separators grouped integral fraction)
    | .exponential upper =>
      some (signText negative ++
        exponentialText separators upper format.exponentialPlaces magnitude.ratio)
    | _ => none
  | _ => none

end FloatDatum

end LogTree
