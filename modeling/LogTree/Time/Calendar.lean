import LogTree.Number.Digits

/-!
# Calendar dates

A date is a day of the proleptic Gregorian calendar, kept as the number of days since the first of
January 1970. Year, month and day are read off in years that begin in March, so that a leap day ends
its year.
-/

namespace LogTree

/-- A day of the proleptic Gregorian calendar. -/
structure Date where
  /-- Days since the first of January 1970. -/
  dayNumber : Int
deriving DecidableEq, Repr

/-- Year, month and day of a date. -/
structure CivilDate where
  /-- Year, zero being the year before the year one. -/
  year : Int
  /-- Month from one to twelve. -/
  month : Nat
  /-- Day of the month from one on. -/
  day : Nat
deriving DecidableEq, Repr

namespace Date

/-- Days from the first of March of the year zero to the first of January 1970. -/
private def epochShift : Int := 719468

/-- Days in a cycle of four hundred years. -/
private def cycleDays : Int := 146097

/-- Year, month and day of the date. -/
def civil (date : Date) : CivilDate :=
  let shifted := date.dayNumber + epochShift
  let cycle := shifted / cycleDays
  let dayOfCycle := (shifted % cycleDays).toNat
  let yearOfCycle :=
    (dayOfCycle - dayOfCycle / 1460 + dayOfCycle / 36524 - dayOfCycle / 146096) / 365
  let dayOfYear := dayOfCycle - (365 * yearOfCycle + yearOfCycle / 4 - yearOfCycle / 100)
  let monthFromMarch := (5 * dayOfYear + 2) / 153
  let month := if monthFromMarch < 10 then monthFromMarch + 3 else monthFromMarch - 9
  { year := cycle * 400 + yearOfCycle + if month ≤ 2 then 1 else 0
    month := month
    day := dayOfYear - (153 * monthFromMarch + 2) / 5 + 1 }

/-- The date of a year, month and day. -/
def ofCivil (civil : CivilDate) : Date :=
  let year : Int := if civil.month ≤ 2 then civil.year - 1 else civil.year
  let cycle := year / 400
  let yearOfCycle := (year % 400).toNat
  let monthFromMarch := if 2 < civil.month then civil.month - 3 else civil.month + 9
  let dayOfYear := (153 * monthFromMarch + 2) / 5 + civil.day - 1
  let dayOfCycle := yearOfCycle * 365 + yearOfCycle / 4 - yearOfCycle / 100 + dayOfYear
  ⟨cycle * cycleDays + dayOfCycle - epochShift⟩

/-- Year of the date. -/
def year (date : Date) : Int := date.civil.year

/-- Month of the date from one to twelve. -/
def month (date : Date) : Nat := date.civil.month

/-- Day of the month from one on. -/
def day (date : Date) : Nat := date.civil.day

/-- Quarter of the year from one to four. -/
def quarter (date : Date) : Nat := (date.month - 1) / 3 + 1

/-- Day of the week, zero being Monday. -/
def weekday (date : Date) : Nat := ((date.dayNumber + 3) % 7).toNat

/-- Days since the Sunday on or before the date. -/
def daysFromSunday (date : Date) : Nat := (date.weekday + 1) % 7

/-- Day of the year from one on. -/
def ordinal (date : Date) : Nat :=
  (date.dayNumber - (ofCivil ⟨date.year, 1, 1⟩).dayNumber).toNat + 1

/-- Week of the year, weeks beginning on Mondays and days before the first one in week zero. -/
def weekFromMonday (date : Date) : Nat := (date.ordinal + 6 - date.weekday) / 7

/-- Week of the year, weeks beginning on Sundays and days before the first one in week zero. -/
def weekFromSunday (date : Date) : Nat := (date.ordinal + 6 - date.daysFromSunday) / 7

/-- The Thursday of the date's week; the year it falls into is the year of the week. -/
private def thursday (date : Date) : Date := ⟨date.dayNumber - date.weekday + 3⟩

/-- Year to which the date's week belongs. -/
def weekYear (date : Date) : Int := (thursday date).year

/-- Number of the date's week in the year to which it belongs. -/
def week (date : Date) : Nat := ((thursday date).ordinal - 1) / 7 + 1

end Date

/-- A number with a sign, zeros after the sign up to a width. -/
def signedDigits (width : Nat) (value : Int) : List Char :=
  (if value < 0 then '-' else '+') :: Digits.zeroPadded (width - 1) value.natAbs

/-- Four digits of a year, or a sign and as many digits as a year outside of four digits needs. -/
def yearText (year : Int) : List Char :=
  if 0 ≤ year ∧ year ≤ 9999 then Digits.zeroPadded 4 year.natAbs else signedDigits 5 year

/-- Two digits of a number. -/
def twoDigits (value : Nat) : List Char :=
  Digits.zeroPadded 2 value

namespace Date

/-- Year, month and day with hyphens between them. -/
def text (date : Date) : String :=
  let civil := date.civil
  String.ofList (yearText civil.year ++ '-' :: twoDigits civil.month ++
    '-' :: twoDigits civil.day)

end Date

end LogTree
