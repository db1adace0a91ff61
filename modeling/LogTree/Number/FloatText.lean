import LogTree.Number.Decimal

/-!
# Texts of floating point numbers

How a decimal is laid out is a style: which powers of ten are written in positional notation,
whether a whole number keeps its point, and how an exponent is signed.
-/

namespace LogTree

/-- How a shortest decimal is written. -/
structure FloatStyle where
  /-- Where an exact half between two shortest decimals goes. -/
  tie : TieRule
  /-- Whether a number whose leading digit has this power of ten is written positionally. -/
  isPositional : Int → Bool
  /-- Whether a whole number ends in a point and a zero. -/
  keepsPoint : Bool
  /-- Whether an exponent that is not negative has a plus sign. -/
  hasPlus : Bool

namespace FloatStyle

/-- Every number is written positionally and a whole number without a point. -/
def plain : FloatStyle :=
  ⟨.up, fun _ => true, false, false⟩

/-- Very small and very large numbers are written with an exponent, others with a point. -/
def debug : FloatStyle :=
  ⟨.up, fun power => -4 ≤ power && power < 16, true, false⟩

end FloatStyle

/-- A mark and the power of ten of a leading digit. -/
def exponentText (mark : Char) (hasPlus : Bool) (power : Int) : List Char :=
  mark :: (if power < 0 then ['-'] else if hasPlus then ['+'] else []) ++
    Digits.decimal power.natAbs

/-- One digit before the point and the others after it. -/
def significandText (point : Char) : List Char → List Char
  | [] => []
  | [leading] => [leading]
  | leading :: further => leading :: point :: further

namespace Decimal

/-- All digits written out around the point. -/
def positional (keepsPoint : Bool) (decimal : Decimal) : List Char :=
  let digits := decimal.digits
  let places := (-decimal.exponent).toNat
  if 0 ≤ decimal.exponent then
    digits ++ List.replicate decimal.exponent.toNat '0' ++ (if keepsPoint then ['.', '0'] else [])
  else
    let written := Digits.padded (places + 1) '0' digits
    written.take (written.length - places) ++ '.' :: written.drop (written.length - places)

/-- The decimal in a style. -/
def styled (style : FloatStyle) (decimal : Decimal) : List Char :=
  if decimal.coefficient = 0 ∨ style.isPositional decimal.leadingPower then
    decimal.positional style.keepsPoint
  else
    significandText '.' decimal.digits ++ exponentText 'e' style.hasPlus decimal.leadingPower

end Decimal

namespace FloatDatum

/-- Sign written before a magnitude. -/
def signText (negative : Bool) : List Char :=
  if negative then ['-'] else []

/-- Text of a datum of the format in a style. -/
def text (format : BinaryFormat) (style : FloatStyle) : FloatDatum → String
  | .notANumber => "NaN"
  | .infinite negative => String.ofList (signText negative ++ ['i', 'n', 'f'])
  | .finite negative magnitude =>
    String.ofList (signText negative ++ (format.shortest style.tie magnitude).styled style)

end FloatDatum

end LogTree
