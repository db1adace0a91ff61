import LogTree.Number.Binary
import LogTree.Number.Digits

/-!
# Decimal expansions

Decimal approximations of exact nonnegative numbers: rounded to a number of places, rounded to a
number of significant digits, and the shortest one that identifies a floating point number among
the numbers of its format.
-/

namespace LogTree

attribute [local instance (high)] instPowNat

/-- The decimal number `coefficient * 10 ^ exponent`. -/
structure Decimal where
  /-- Integral factor. -/
  coefficient : Nat
  /-- Power of ten. -/
  exponent : Int
deriving DecidableEq, Repr

/-- Where an exact half between two candidates goes. -/
inductive TieRule where
  /-- To the greater candidate. -/
  | up
  /-- To the candidate with an even last digit. -/
  | even
deriving DecidableEq, Repr

namespace Ratio

/-- The ratio times a power of ten. -/
def scaled (ratio : Ratio) (power : Int) : Ratio :=
  if 0 ≤ power then ⟨ratio.numerator * 10 ^ power.toNat, ratio.denominator⟩
  else ⟨ratio.numerator, ratio.denominator * 10 ^ (-power).toNat⟩

/-- Power of ten of the leading digit of a positive ratio. -/
def leadingPower (ratio : Ratio) : Int :=
  if ratio.denominator ≤ ratio.numerator then
    ((Digits.decimal (ratio.numerator / ratio.denominator)).length : Int) - 1
  else
    -((Digits.decimal ((ratio.denominator - 1) / ratio.numerator)).length : Int)

/-- Integral and fractional digits of the ratio rounded to a number of places. -/
def fixed (ratio : Ratio) (places : Nat) : List Char × List Char :=
  let units := (ratio.scaled places).rounded
  (Digits.decimal (units / 10 ^ places),
    if places = 0 then [] else Digits.zeroPadded places (units % 10 ^ places))

/-- The digits of the ratio rounded to one leading digit and a number of further digits, and the
power of ten of the leading digit. -/
def significant (ratio : Ratio) (further : Nat) : List Char × Int :=
  if ratio.numerator = 0 then (List.replicate (further + 1) '0', 0)
  else
    let power := ratio.leadingPower
    let units := (ratio.scaled (further - power)).rounded
    if units < 10 ^ (further + 1) then (Digits.decimal units, power)
    else (Digits.decimal (units / 10), power + 1)

end Ratio

namespace Decimal

/-- The same number without trailing zeros in its coefficient; `fuel` bounds their number. -/
private def stripZeros : Nat → Decimal → Decimal
  | 0, decimal => decimal
  | fuel + 1, decimal =>
    if decimal.coefficient ≠ 0 ∧ decimal.coefficient % 10 = 0 then
      stripZeros fuel ⟨decimal.coefficient / 10, decimal.exponent + 1⟩
    else decimal

/-- The same number without trailing zeros in its coefficient. -/
def stripped (decimal : Decimal) : Decimal :=
  stripZeros (Digits.decimal decimal.coefficient).length decimal

/-- Digits of the coefficient. -/
def digits (decimal : Decimal) : List Char :=
  Digits.decimal decimal.coefficient

/-- Power of ten of the leading digit. -/
def leadingPower (decimal : Decimal) : Int :=
  decimal.exponent + decimal.digits.length - 1

end Decimal

/-- A number between the two ends of the interval of reals that round to it, all three counted in
the same unit, together with a decimal grid counted in that unit. -/
structure RoundingInterval where
  /-- Lower end. -/
  lower : Nat
  /-- The number itself. -/
  value : Nat
  /-- Upper end. -/
  upper : Nat
  /-- Whether the ends belong to the interval. -/
  closed : Bool
  /-- Distance of neighbouring points of the grid. -/
  step : Nat

namespace RoundingInterval

/-- Whether a grid point lies in the interval. -/
def Contains (interval : RoundingInterval) (point : Nat) : Bool :=
  if interval.closed then
    interval.lower ≤ point * interval.step && point * interval.step ≤ interval.upper
  else
    interval.lower < point * interval.step && point * interval.step < interval.upper

/-- The grid point in the interval that is nearest to the number, if there is one: only the
number's two neighbours on the grid have to be asked. -/
def nearest? (interval : RoundingInterval) (tie : TieRule) : Option Nat :=
  let below := interval.value / interval.step
  let above := below + 1
  let toBelow := interval.value - below * interval.step
  let toAbove := above * interval.step - interval.value
  match interval.Contains below, interval.Contains above with
  | false, false => none
  | true, false => some below
  | false, true => some above
  | true, true =>
    if toBelow < toAbove then some below
    else if toAbove < toBelow then some above
    else match tie with
      | .up => some above
      | .even => some (if below % 2 = 0 then below else above)

end RoundingInterval

namespace BinaryFormat

/-- The reals that round to a number of the format, over the grid of the multiples of
`10 ^ power`. -/
def interval (format : BinaryFormat) (number : Dyadic) (power : Int) : RoundingInterval :=
  let unit : Int := number.exponent - 2
  let scale := 2 ^ unit.toNat * 10 ^ (-power).toNat
  let step := 2 ^ (-unit).toNat * 10 ^ power.toNat
  { lower := (4 * number.mantissa - if format.isCloserBelow number then 1 else 2) * scale
    value := 4 * number.mantissa * scale
    upper := (4 * number.mantissa + 2) * scale
    closed := number.mantissa % 2 = 0
    step := step }

/-- The shortest decimal among those with at most `count` digits that rounds to the number, tried
with ever more digits; `leading` is the power of ten of the number's leading digit. -/
private def shortestWithin (format : BinaryFormat) (tie : TieRule) (number : Dyadic)
    (leading : Int) : Nat → Nat → Decimal
  | 0, used =>
    let last := leading - used
    ⟨(number.ratio.scaled (-last)).rounded, last⟩
  | count + 1, used =>
    let last := leading - used
    match (format.interval number last).nearest? tie with
    | some coefficient => ⟨coefficient, last⟩
    | none => shortestWithin format tie number leading count (used + 1)

/-- The decimal with the fewest digits that rounds to the number in the format, and of those the
nearest to it; seventeen digits are always enough. -/
def shortest (format : BinaryFormat) (tie : TieRule) (number : Dyadic) : Decimal :=
  if number.mantissa = 0 then ⟨0, 0⟩
  else (shortestWithin format tie number number.ratio.leadingPower 17 0).stripped

end BinaryFormat

end LogTree
