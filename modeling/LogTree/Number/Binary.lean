/-!
# Binary interchange formats

A floating point datum is a bit pattern. This module reads a pattern of the 32-bit or the 64-bit
interchange format as what it stands for, and rounds a natural number to the precision of a format.
-/

namespace LogTree

-- Powers are the built-in ones, also where algebraic structures are known.
attribute [local instance (high)] instPowNat

/-- The nonnegative real number `mantissa * 2 ^ exponent`. -/
structure Dyadic where
  /-- Integral factor. -/
  mantissa : Nat
  /-- Power of two. -/
  exponent : Int
deriving DecidableEq, Repr

/-- A nonnegative rational number as a numerator and a positive denominator. -/
structure Ratio where
  /-- Numerator. -/
  numerator : Nat
  /-- Denominator. -/
  denominator : Nat
deriving DecidableEq, Repr

namespace Ratio

/-- A natural number as a ratio. -/
def ofNat (value : Nat) : Ratio := ⟨value, 1⟩

end Ratio

namespace Dyadic

/-- The number as a ratio, the denominator being a power of two. -/
def ratio (number : Dyadic) : Ratio :=
  if 0 ≤ number.exponent then ⟨number.mantissa * 2 ^ number.exponent.toNat, 1⟩
  else ⟨number.mantissa, 2 ^ (-number.exponent).toNat⟩

end Dyadic

/-- What a floating point bit pattern stands for. -/
inductive FloatDatum where
  /-- No number; the payload does not matter to any text. -/
  | notANumber
  /-- Infinity with a sign. -/
  | infinite (negative : Bool)
  /-- A finite number, zero keeping its sign. -/
  | finite (negative : Bool) (magnitude : Dyadic)
deriving DecidableEq, Repr

namespace FloatDatum

/-- Whether the datum is a finite number. -/
def isFinite : FloatDatum → Bool
  | finite .. => true
  | _ => false

end FloatDatum

/-- A binary interchange format. -/
structure BinaryFormat where
  /-- Stored bits of the significand. -/
  fractionBits : Nat
  /-- Bits of the biased exponent. -/
  exponentBits : Nat
deriving DecidableEq, Repr

namespace BinaryFormat

/-- The 32-bit format. -/
def single : BinaryFormat := ⟨23, 8⟩

/-- The 64-bit format. -/
def double : BinaryFormat := ⟨52, 11⟩

/-- What is subtracted from a stored exponent. -/
def bias (format : BinaryFormat) : Nat :=
  2 ^ (format.exponentBits - 1) - 1

/-- Exponent of the last significand bit of the smallest numbers. -/
def leastExponent (format : BinaryFormat) : Int :=
  1 - (format.bias : Int) - format.fractionBits

/-- What a bit pattern of the format stands for. -/
def decode (format : BinaryFormat) (bits : Nat) : FloatDatum :=
  let fraction := bits % 2 ^ format.fractionBits
  let stored := bits / 2 ^ format.fractionBits % 2 ^ format.exponentBits
  let negative : Bool := bits / 2 ^ (format.fractionBits + format.exponentBits) % 2 = 1
  if stored = 2 ^ format.exponentBits - 1 then
    if fraction = 0 then .infinite negative else .notANumber
  else if stored = 0 then
    .finite negative ⟨fraction, format.leastExponent⟩
  else
    .finite negative
      ⟨fraction + 2 ^ format.fractionBits, format.leastExponent + (stored - 1 : Nat)⟩

/-- The same number with its mantissa shifted into the format's precision; exact for every number
of a narrower format. -/
def widened (format : BinaryFormat) (number : Dyadic) : Dyadic :=
  let shift := format.fractionBits - number.mantissa.log2
  if number.mantissa = 0 then ⟨0, format.leastExponent⟩
  else ⟨number.mantissa * 2 ^ shift, number.exponent - shift⟩

/-- Whether the number just below lies only half as far away as the number just above. -/
def isCloserBelow (format : BinaryFormat) (number : Dyadic) : Bool :=
  number.mantissa = 2 ^ format.fractionBits

end BinaryFormat

namespace Ratio

/-- Nearest natural number, a half going to the even neighbour. -/
def rounded (ratio : Ratio) : Nat :=
  let quotient := ratio.numerator / ratio.denominator
  let remainder := ratio.numerator % ratio.denominator
  if 2 * remainder < ratio.denominator ∨
      (2 * remainder = ratio.denominator ∧ quotient % 2 = 0) then
    quotient
  else
    quotient + 1

end Ratio

namespace BinaryFormat

/-- A natural number rounded to the precision of the format, a half going to the even neighbour. -/
def nearest (format : BinaryFormat) (value : Nat) : Nat :=
  let step := 2 ^ (value.log2 - format.fractionBits)
  Ratio.rounded ⟨value, step⟩ * step

/-- Exponent of the greatest number of the format, its mantissa being an integer. -/
def greatestExponent (format : BinaryFormat) : Int :=
  (format.bias : Int) - format.fractionBits

/-- The ratio over a power of two. -/
private def inUnits (ratio : Ratio) (power : Int) : Ratio :=
  ⟨ratio.numerator * 2 ^ (-power).toNat, ratio.denominator * 2 ^ power.toNat⟩

/-- A ratio rounded to a number of the format, a half going to the even neighbour; nothing if it is
too great for the format. -/
def round? (format : BinaryFormat) (ratio : Ratio) : Option Dyadic :=
  let estimate : Int := (ratio.numerator.log2 : Int) - ratio.denominator.log2 - format.fractionBits
  let units (power : Int) : Nat := (inUnits ratio power).rounded
  let power : Int :=
    if units (estimate - 1) < 2 ^ (format.fractionBits + 1) then estimate - 1 else estimate
  let exponent := max power format.leastExponent
  let mantissa := units exponent
  let (mantissa, exponent) :=
    if mantissa < 2 ^ (format.fractionBits + 1) then (mantissa, exponent)
    else (mantissa / 2, exponent + 1)
  if exponent ≤ format.greatestExponent then some ⟨mantissa, exponent⟩ else none

end BinaryFormat

end LogTree
