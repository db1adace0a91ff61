import LogTree.Time.Clock

/-!
# Date and time patterns

A pattern is a text in which directives, a percent sign and what follows it, stand for parts of a
date and time. A pattern is refused as a whole if it holds an unknown directive, and it cannot be
filled if it asks for a part that is not there.
-/

namespace LogTree

/-- How a number is brought to its width. -/
inductive FieldPadding where
  /-- Not at all. -/
  | none
  /-- With zeros. -/
  | zero
  /-- With spaces. -/
  | space
deriving DecidableEq, Repr

/-- A part of a date and time that is a number. -/
inductive NumericField where
  | year
  | century
  | yearOfCentury
  | weekYear
  | weekYearOfCentury
  | quarter
  | month
  | day
  | weekFromSunday
  | weekFromMonday
  | week
  | daysFromSunday
  | dayOfWeek
  | ordinal
  | hour
  | faceHour
  | minute
  | second
  | nanosecond
  | timestamp
deriving DecidableEq, Repr

/-- What a pattern is made of. -/
inductive PatternItem where
  /-- A character that stands for itself. -/
  | literal (character : Char)
  /-- A numeric part. -/
  | number (field : NumericField) (padding : FieldPadding)
  /-- Name of the month, cut to three letters if `short`. -/
  | monthName (short : Bool)
  /-- Name of the day of the week, cut to three letters if `short`. -/
  | weekdayName (short : Bool)
  /-- Half of the day, in capitals if `upper`. -/
  | dayHalf (upper : Bool)
  /-- Point and fraction of the second with as few of three, six or nine places as it needs. -/
  | fraction
  /-- Fraction of the second cut to a number of places, after a point if `point`. -/
  | fractionPlaces (count : Nat) (point : Bool)
  /-- Name of the offset. -/
  | zoneName
  /-- Offset in hours and minutes, with a colon between them if `colon`. -/
  | zoneOffset (colon : Bool)
  /-- Offset in hours, minutes and seconds. -/
  | zoneOffsetSeconds
  /-- Offset in whole hours. -/
  | zoneOffsetHours
  /-- An offset that can be read in many forms and written in none. -/
  | zoneOffsetAny
  /-- Date, time and offset together. -/
  | complete
deriving DecidableEq, Repr

namespace PatternItem

/-- The numeric part of a directive and its usual padding. -/
def numeric? : Char → Option (NumericField × FieldPadding)
  | 'C' => some (.century, .zero)
  | 'G' => some (.weekYear, .zero)
  | 'H' => some (.hour, .zero)
  | 'I' => some (.faceHour, .zero)
  | 'M' => some (.minute, .zero)
  | 'S' => some (.second, .zero)
  | 'U' => some (.weekFromSunday, .zero)
  | 'V' => some (.week, .zero)
  | 'W' => some (.weekFromMonday, .zero)
  | 'Y' => some (.year, .zero)
  | 'd' => some (.day, .zero)
  | 'e' => some (.day, .space)
  | 'f' => some (.nanosecond, .zero)
  | 'g' => some (.weekYearOfCentury, .zero)
  | 'j' => some (.ordinal, .zero)
  | 'k' => some (.hour, .space)
  | 'l' => some (.faceHour, .space)
  | 'm' => some (.month, .zero)
  | 'q' => some (.quarter, .none)
  | 's' => some (.timestamp, .none)
  | 'u' => some (.dayOfWeek, .none)
  | 'w' => some (.daysFromSunday, .none)
  | 'y' => some (.yearOfCentury, .zero)
  | _ => none

/-- Zero-padded numbers with a character between neighbours. -/
private def separated (separator : Char) (fields : List NumericField) : List PatternItem :=
  (fields.map fun field => [number field .zero]).intersperse [literal separator] |>.flatten

/-- The items of a directive that is one letter or sign long. -/
def simple? : Char → Option (List PatternItem)
  | 'A' => some [weekdayName false]
  | 'B' => some [monthName false]
  | 'D' => some (separated '/' [.month, .day, .yearOfCentury])
  | 'F' => some (separated '-' [.year, .month, .day])
  | 'P' => some [dayHalf false]
  | 'R' => some (separated ':' [.hour, .minute])
  | 'T' => some (separated ':' [.hour, .minute, .second])
  | 'X' => some (separated ':' [.hour, .minute, .second])
  | 'Z' => some [zoneName]
  | 'a' => some [weekdayName true]
  | 'b' => some [monthName true]
  | 'c' => some ([weekdayName true, literal ' ', monthName true, literal ' ',
      number .day .space, literal ' '] ++ separated ':' [.hour, .minute, .second] ++
      [literal ' ', number .year .zero])
  | 'h' => some [monthName true]
  | 'n' => some [literal '\n']
  | 'p' => some [dayHalf true]
  | 'r' => some (separated ':' [.faceHour, .minute, .second] ++ [literal ' ', dayHalf true])
  | 't' => some [literal '\t']
  | 'v' => some [number .day .space, literal '-', monthName true, literal '-',
      number .year .zero]
  | 'x' => some (separated '/' [.month, .day, .yearOfCentury])
  | 'z' => some [zoneOffset false]
  | '+' => some [complete]
  | '%' => some [literal '%']
  | letter => (numeric? letter).map fun (field, padding) => [number field padding]

/-- Number of places that a digit before the letter of a fraction asks for. -/
def places? : Char → Option Nat
  | '3' => some 3
  | '6' => some 6
  | '9' => some 9
  | _ => none

/-- The padding that a sign before a letter asks for. -/
def padding? : Char → Option FieldPadding
  | '-' => some .none
  | '0' => some .zero
  | '_' => some .space
  | _ => none

/-- The items of a pattern, or nothing if a directive is unknown. -/
def parse? : List Char → Option (List PatternItem)
  | [] => some []
  | '%' :: ':' :: ':' :: ':' :: 'z' :: rest => (zoneOffsetHours :: ·) <$> parse? rest
  | '%' :: ':' :: ':' :: 'z' :: rest => (zoneOffsetSeconds :: ·) <$> parse? rest
  | '%' :: ':' :: 'z' :: rest => (zoneOffset true :: ·) <$> parse? rest
  | '%' :: '#' :: 'z' :: rest => (zoneOffsetAny :: ·) <$> parse? rest
  | '%' :: '.' :: 'f' :: rest => (fraction :: ·) <$> parse? rest
  | '%' :: '.' :: digit :: 'f' :: rest => do
    let count ← places? digit
    return fractionPlaces count true :: (← parse? rest)
  | '%' :: sign :: letter :: rest =>
    match padding? sign, places? sign with
    | some padding, _ => do
      let (field, _) ← numeric? letter
      return number field padding :: (← parse? rest)
    | none, some count => do
      guard (letter = 'f')
      return fractionPlaces count false :: (← parse? rest)
    | none, none => do
      let items ← simple? sign
      return items ++ (← parse? (letter :: rest))
  | ['%', sign] => simple? sign
  | ['%'] => none
  | character :: rest => (literal character :: ·) <$> parse? rest

end PatternItem

/-- The parts of a date and time that a pattern may ask for. -/
structure PatternParts where
  /-- The date. -/
  date : Option Date
  /-- The time of day. -/
  time : Option TimeOfDay
  /-- Name of the offset from universal time and its seconds. -/
  zone : Option (List Char × Int)

namespace FieldPadding

/-- A number at a width, a sign being part of the width; `plus` asks for a sign in any case. -/
def signed (padding : FieldPadding) (width : Nat) (plus : Bool) (value : Int) : List Char :=
  let sign := if value < 0 then ['-'] else if plus then ['+'] else []
  match padding with
  | none => sign ++ Digits.decimal value.natAbs
  | zero => sign ++ Digits.zeroPadded (width - sign.length) value.natAbs
  | space => Digits.padded width ' ' (sign ++ Digits.decimal value.natAbs)

/-- A year of four digits without a sign, or of any other number of digits with one. -/
def year (padding : FieldPadding) (value : Int) : List Char :=
  if 0 ≤ value ∧ value < 10000 then padding.signed 4 false value
  else padding.signed 5 true value

/-- Two digits of a byte. A byte of a hundred or more shows its tens as the characters that come
after the digit nine. -/
def pair (padding : FieldPadding) (value : Nat) : List Char :=
  let byte := value % 256
  let ones := Nat.digitChar (byte % 10)
  match byte / 10, padding with
  | 0, none => [ones]
  | 0, space => [' ', ones]
  | tens, _ => [Char.ofNat ('0'.toNat + tens), ones]

end FieldPadding

namespace PatternItem

/-- English names of the months. -/
def monthNames : List String :=
  ["January", "February", "March", "April", "May", "June", "July", "August", "September",
    "October", "November", "December"]

/-- English names of the days of the week. -/
def weekdayNames : List String :=
  ["Monday", "Tuesday", "Wednesday", "Thursday", "Friday", "Saturday", "Sunday"]

/-- A name, cut to three letters if `short`. -/
private def nameText (short : Bool) (names : List String) (index : Nat) : List Char :=
  let name := (names.getD index "").toList
  if short then name.take 3 else name

/-- The text of a numeric part, or nothing if it is not there. -/
def numberText (parts : PatternParts) (field : NumericField) (padding : FieldPadding) :
    Option (List Char) :=
  match field with
  | .year => do return padding.year (← parts.date).year
  | .century => do return padding.pair ((← parts.date).year / 100 % 256).toNat
  | .yearOfCentury => do return padding.pair ((← parts.date).year % 100).toNat
  | .weekYear => do return padding.year (← parts.date).weekYear
  | .weekYearOfCentury => do return padding.pair ((← parts.date).weekYear % 100).toNat
  | .quarter => do return Digits.decimal (← parts.date).quarter
  | .month => do return padding.pair (← parts.date).month
  | .day => do return padding.pair (← parts.date).day
  | .weekFromSunday => do return padding.pair (← parts.date).weekFromSunday
  | .weekFromMonday => do return padding.pair (← parts.date).weekFromMonday
  | .week => do return padding.pair (← parts.date).week
  | .daysFromSunday => do return Digits.decimal (← parts.date).daysFromSunday
  | .dayOfWeek => do return Digits.decimal ((← parts.date).weekday + 1)
  | .ordinal => do return padding.signed 3 false (← parts.date).ordinal
  | .hour => do return padding.pair (← parts.time).hour
  | .faceHour => do return padding.pair (← parts.time).faceHour
  | .minute => do return padding.pair (← parts.time).minute
  | .second => do return padding.pair (← parts.time).second
  | .nanosecond => do return padding.signed 9 false (← parts.time).fraction
  | .timestamp => do
    let moment : DateTime := ⟨← parts.date, ← parts.time⟩
    return padding.signed 9 false (moment.timestamp - (parts.zone.map (·.2)).getD 0)

/-- The text of an item, or nothing if it asks for a part that is not there. -/
def text (parts : PatternParts) : PatternItem → Option (List Char)
  | literal character => some [character]
  | number field padding => numberText parts field padding
  | monthName short => do return nameText short monthNames ((← parts.date).month - 1)
  | weekdayName short => do return nameText short weekdayNames (← parts.date).weekday
  | dayHalf upper => do
    let afternoon := (← parts.time).isAfternoon
    return match afternoon, upper with
      | false, false => ['a', 'm']
      | false, true => ['A', 'M']
      | true, false => ['p', 'm']
      | true, true => ['P', 'M']
  | fraction => do return TimeOfDay.fractionText (← parts.time).fraction
  | fractionPlaces count point => do
    let digits := Digits.zeroPadded 9 (← parts.time).fraction
    return (if point then ['.'] else []) ++ digits.take count
  | zoneName => do return (← parts.zone).1
  | zoneOffset colon => do return offsetText (if colon then [':'] else []) (← parts.zone).2
  | zoneOffsetSeconds => do return offsetTextWithSeconds true (← parts.zone).2
  | zoneOffsetHours => do
    let offset := (← parts.zone).2
    return (if offset < 0 then '-' else '+') :: twoDigits (offset.natAbs / 3600)
  | zoneOffsetAny => none
  | complete => do
    let moment : DateTime := ⟨← parts.date, ← parts.time⟩
    let (_, offset) ← parts.zone
    return (moment.text 'T').toList ++ offsetText [':'] offset

end PatternItem

namespace PatternParts

/-- The pattern filled with the parts, or nothing if it is refused or cannot be filled. -/
def format? (parts : PatternParts) (pattern : String) : Option String := do
  let items ← PatternItem.parse? pattern.toList
  let texts ← items.mapM (PatternItem.text parts)
  return String.ofList texts.flatten

/-- Parts of a moment in universal time. -/
def ofUniversal (moment : DateTime) : PatternParts :=
  ⟨some moment.date, some moment.time, some (['U', 'T', 'C'], 0)⟩

/-- Parts of a moment at an offset; the offset is named by its hours, minutes and seconds. -/
def ofOffset (moment : OffsetDateTime) : PatternParts :=
  ⟨some moment.localTime.date, some moment.localTime.time,
    some (offsetTextWithSeconds false moment.offset, moment.offset)⟩

/-- Parts of a local moment, which has no offset. -/
def ofLocal (moment : DateTime) : PatternParts :=
  ⟨some moment.date, some moment.time, none⟩

/-- Parts of a date. -/
def ofDate (date : Date) : PatternParts :=
  ⟨some date, none, none⟩

/-- Parts of a time of day. -/
def ofTime (time : TimeOfDay) : PatternParts :=
  ⟨none, some time, none⟩

end PatternParts

end LogTree
