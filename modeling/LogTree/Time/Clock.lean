import LogTree.Time.Calendar

/-!
# Times of day and moments

A time of day counts seconds since midnight and nanoseconds of the second; a leap second is kept as
a second with more than a thousand million nanoseconds. A moment is a date and a time of day, read
as universal time, as time at an offset from it, or as local time without any offset.
-/

namespace LogTree

/-- Nanoseconds of an ordinary second. -/
def nanosecondsPerSecond : Nat := 1000000000

/-- A time of day. -/
structure TimeOfDay where
  /-- Seconds since midnight. -/
  secondOfDay : Nat
  /-- Nanoseconds of the second, from a thousand million on in a leap second. -/
  nanosecond : Nat
deriving DecidableEq, Repr

namespace TimeOfDay

/-- Hour of the day. -/
def hour (time : TimeOfDay) : Nat := time.secondOfDay / 3600

/-- Minute of the hour. -/
def minute (time : TimeOfDay) : Nat := time.secondOfDay / 60 % 60

/-- Second of the minute; a leap second is counted one further. -/
def second (time : TimeOfDay) : Nat :=
  time.secondOfDay % 60 + time.nanosecond / nanosecondsPerSecond

/-- Nanoseconds since the second that `second` counts. -/
def fraction (time : TimeOfDay) : Nat := time.nanosecond % nanosecondsPerSecond

/-- Whether the time is noon or later. -/
def isAfternoon (time : TimeOfDay) : Bool := 12 ≤ time.hour

/-- Hour on a clock face. -/
def faceHour (time : TimeOfDay) : Nat := if time.hour % 12 = 0 then 12 else time.hour % 12

/-- A point and three, six or nine digits of a fraction of a second, and nothing if it is zero. -/
def fractionText (fraction : Nat) : List Char :=
  if fraction = 0 then []
  else if fraction % 1000000 = 0 then '.' :: Digits.zeroPadded 3 (fraction / 1000000)
  else if fraction % 1000 = 0 then '.' :: Digits.zeroPadded 6 (fraction / 1000)
  else '.' :: Digits.zeroPadded 9 fraction

/-- Hours, minutes and seconds with colons between them, and the fraction. -/
def text (time : TimeOfDay) : String :=
  String.ofList (twoDigits time.hour ++ ':' :: twoDigits time.minute ++
    ':' :: twoDigits time.second ++ fractionText time.fraction)

end TimeOfDay

/-- A date and a time of day. -/
structure DateTime where
  /-- The date. -/
  date : Date
  /-- The time of day. -/
  time : TimeOfDay
deriving DecidableEq, Repr

namespace DateTime

/-- Seconds of a day. -/
private def secondsPerDay : Nat := 86400

/-- The moment some seconds and nanoseconds after the start of 1970. -/
def ofTimestamp (seconds : Int) (nanosecond : Nat) : DateTime :=
  ⟨⟨seconds / secondsPerDay⟩, ⟨(seconds % secondsPerDay).toNat, nanosecond⟩⟩

/-- Seconds since the start of 1970. -/
def timestamp (moment : DateTime) : Int :=
  moment.date.dayNumber * secondsPerDay + moment.time.secondOfDay

/-- The moment some seconds later; the nanoseconds stay as they are. -/
def shifted (moment : DateTime) (seconds : Int) : DateTime :=
  ofTimestamp (moment.timestamp + seconds) moment.time.nanosecond

/-- Date and time of day with a separator between them. -/
def text (separator : Char) (moment : DateTime) : String :=
  (moment.date.text.push separator) ++ moment.time.text

end DateTime

/-- A sign, and hours and minutes of an offset from universal time in seconds. -/
private def hoursAndMinutes (offset : Int) (minutes : Nat) (separator : List Char) : List Char :=
  (if offset < 0 then '-' else '+') :: twoDigits (minutes / 60) ++ separator ++
    twoDigits (minutes % 60)

/-- An offset rounded to whole minutes. -/
def offsetText (separator : List Char) (offset : Int) : List Char :=
  hoursAndMinutes offset ((offset.natAbs + 30) / 60) separator

/-- An offset with its seconds, which are left out if they are zero and not `always` written. -/
def offsetTextWithSeconds (always : Bool) (offset : Int) : List Char :=
  let seconds := offset.natAbs % 60
  hoursAndMinutes offset (offset.natAbs / 60) [':'] ++
    if seconds = 0 ∧ !always then [] else ':' :: twoDigits seconds

/-- A moment together with the offset at which it is shown. -/
structure OffsetDateTime where
  /-- The moment in universal time. -/
  universal : DateTime
  /-- Seconds east of universal time. -/
  offset : Int
deriving Repr

namespace OffsetDateTime

/-- Moments are the same whatever the offsets at which they are shown. -/
instance : BEq OffsetDateTime where
  beq left right := left.universal == right.universal

/-- Date and time of day at the offset. -/
def localTime (moment : OffsetDateTime) : DateTime :=
  moment.universal.shifted moment.offset

/-- Local date, the letter T, local time, and the offset in hours and minutes. -/
def text (moment : OffsetDateTime) : String :=
  moment.localTime.text 'T' ++ String.ofList (offsetText [':'] moment.offset)

/-- Like `text`, with the seconds of an offset that has some. -/
def debugText (moment : OffsetDateTime) : String :=
  moment.localTime.text 'T' ++ String.ofList (offsetTextWithSeconds false moment.offset)

end OffsetDateTime

end LogTree
