import LogTree.Time.Clock

/-!
# Spans of time

An elapsed time is never negative; a time difference may be. The two have texts of their own.
-/

namespace LogTree

/-- An elapsed time. -/
structure Duration where
  /-- Whole seconds. -/
  seconds : Nat
  /-- Nanoseconds of the last second. -/
  nanoseconds : Nat
deriving DecidableEq, Repr

/-- Decimal places of a fraction over a power of ten, without zeros at the end. -/
private def places (width fraction : Nat) : List Char :=
  ((Digits.zeroPadded width fraction).reverse.dropWhile (· = '0')).reverse

/-- A number with the places of a fraction, the point being left out if there are none. -/
private def withPlaces (whole width fraction : Nat) : List Char :=
  if fraction = 0 then Digits.decimal whole
  else Digits.decimal whole ++ '.' :: places width fraction

namespace Duration

/-- The span in the greatest unit of which it holds at least one, down to nanoseconds. -/
def text (duration : Duration) : String :=
  let nanoseconds := duration.nanoseconds
  if 0 < duration.seconds then
    String.ofList (withPlaces duration.seconds 9 nanoseconds) ++ "s"
  else if 1000000 ≤ nanoseconds then
    String.ofList (withPlaces (nanoseconds / 1000000) 6 (nanoseconds % 1000000)) ++ "ms"
  else if 1000 ≤ nanoseconds then
    String.ofList (withPlaces (nanoseconds / 1000) 3 (nanoseconds % 1000)) ++ "µs"
  else
    String.ofList (Digits.decimal nanoseconds) ++ "ns"

end Duration

/-- A difference of two moments. -/
structure TimeDelta where
  /-- Whole seconds, rounded down. -/
  seconds : Int
  /-- Nanoseconds above the whole seconds. -/
  nanoseconds : Nat
deriving DecidableEq, Repr

namespace TimeDelta

/-- The difference without its sign. -/
def magnitude (delta : TimeDelta) : Duration :=
  if 0 ≤ delta.seconds then ⟨delta.seconds.natAbs, delta.nanoseconds⟩
  else if delta.nanoseconds = 0 then ⟨delta.seconds.natAbs, 0⟩
  else ⟨delta.seconds.natAbs - 1, nanosecondsPerSecond - delta.nanoseconds⟩

/-- A period of seconds, with a sign before it if it is negative. -/
def text (delta : TimeDelta) : String :=
  let magnitude := delta.magnitude
  (if delta.seconds < 0 then "-P" else "P") ++
    if magnitude = ⟨0, 0⟩ then "0D"
    else "T" ++ String.ofList (withPlaces magnitude.seconds 9 magnitude.nanoseconds) ++ "S"

end TimeDelta

end LogTree
