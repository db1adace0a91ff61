import LogTree.Json.Basic
import LogTree.Json.Error
import LogTree.Number.Integer
import LogTree.Text.Hex
import LogTree.Text.Quoted

/-!
# Reading JSON

Readers take what they need from the front of a text and leave the rest. A text is read from left to
right, so the first fault in it is the one that is reported, and a value that is not asked for is
passed over without being checked further than its form.
-/

namespace LogTree

attribute [local instance (high)] instPowNat Zero.ofOfNat0

/-- Reads something from the front of a text. -/
abbrev JsonReader := StateT (List Char) (Except JsonError)

/-- What was found in the place of something else. -/
inductive JsonFinding where
  | null
  | bool (value : Bool)
  | integer (value : Int)
  | floating (isNegative : Bool) (magnitude : Dyadic)
  | string (content : String)
  | sequence
  | map

namespace JsonFinding

/-- Text of the finding. -/
def text : JsonFinding → String
  | null => "null"
  | bool value => "boolean `" ++ (Json.bool value).compact ++ "`"
  | integer value => "integer `" ++ Json.integerText value ++ "`"
  | floating isNegative magnitude =>
    "floating point `" ++ (Json.double isNegative magnitude).compact ++ "`"
  | string content => "string " ++ Quoted.text content
  | sequence => "sequence"
  | map => "map"

end JsonFinding

/-- A number as it stands in a document. -/
inductive JsonNumber where
  /-- A natural number of at most 64 bits. -/
  | natural (value : Nat)
  /-- A negative integer of at most 64 bits. -/
  | negative (value : Int)
  /-- Any other number. -/
  | floating (isNegative : Bool) (magnitude : Dyadic)

namespace JsonNumber

/-- The number as a finding. -/
def finding : JsonNumber → JsonFinding
  | natural value => .integer value
  | negative value => .integer value
  | floating isNegative magnitude => .floating isNegative magnitude

end JsonNumber

namespace JsonReader

variable {Result : Type}

/-- Refuses a text that is no JSON. -/
def malformed (description : String) : JsonReader Result :=
  throw ⟨.malformed, description, none⟩

/-- Refuses a text that breaks off. -/
def cutOff (description : String) : JsonReader Result :=
  throw ⟨.cutOff, description, none⟩

/-- Refuses a document of another form. -/
def unexpected (description : String) : JsonReader Result :=
  throw ⟨.unexpected, description, none⟩

/-- Refuses a value of another type. -/
def invalidType (finding : JsonFinding) (expected : String) : JsonReader Result :=
  unexpected ("invalid type: " ++ finding.text ++ ", expected " ++ expected)

/-- Refuses a value that its type cannot hold. -/
def invalidValue (finding : JsonFinding) (expected : String) : JsonReader Result :=
  unexpected ("invalid value: " ++ finding.text ++ ", expected " ++ expected)

/-- Whether a character may stand between the parts of a document. -/
def isSpace (character : Char) : Bool :=
  character = ' ' || character = '\n' || character = '\t' || character = '\r'

/-- The next character, which is not taken. -/
def next : JsonReader (Option Char) :=
  List.head? <$> get

/-- The next character that is no space, which is not taken. -/
def peek : JsonReader (Option Char) := do
  modify (List.dropWhile isSpace)
  next

/-- Takes a character. -/
def skip : JsonReader Unit :=
  modify List.tail

/-- Takes the letters of a word. -/
def word : List Char → JsonReader Unit
  | [] => pure ()
  | expected :: rest => do
    match ← next with
    | none => cutOff "EOF while parsing a value"
    | some found =>
      if found = expected then
        skip
        word rest
      else malformed "expected ident"

/-- Takes four hexadecimal digits. -/
def hexEscape : JsonReader Nat := do
  let text ← get
  if (text.map Char.utf8Size).sum < 4 then cutOff "EOF while parsing a string"
  else match text with
    | first :: second :: third :: fourth :: rest =>
      match Hex.number? [first, second, third, fourth] with
      | some code =>
        set rest
        return code
      | none => malformed "invalid escape"
    | _ => malformed "invalid escape"

/-- Whether a code is the first half of a pair of surrogates. -/
private def isLeading (code : Nat) : Bool := 0xD800 ≤ code && code ≤ 0xDBFF

/-- Whether a code is the second half of a pair of surrogates. -/
private def isTrailing (code : Nat) : Bool := 0xDC00 ≤ code && code ≤ 0xDFFF

/-- Takes the second half of a pair of surrogates. -/
private def trailingEscape (leading : Nat) : JsonReader Char := do
  match ← get with
  | [] | ['\\'] => cutOff "EOF while parsing a string"
  | '\\' :: 'u' :: rest =>
    set rest
    let trailing ← hexEscape
    if isTrailing trailing then
      return Char.ofNat ((leading - 0xD800) * 0x400 + (trailing - 0xDC00) + 0x10000)
    else malformed "lone leading surrogate in hex escape"
  | _ => malformed "unexpected end of hex escape"

/-- The character of an escape that is one letter or sign long. -/
private def shortEscape? : Char → Option Char
  | '"' => some '"'
  | '\\' => some '\\'
  | '/' => some '/'
  | 'b' => some '\x08'
  | 'f' => some '\x0c'
  | 'n' => some '\n'
  | 'r' => some '\r'
  | 't' => some '\t'
  | _ => none

/-- Takes an escape behind its backslash; surrogates are looked at only if `checked`. -/
private def escape (checked : Bool) : JsonReader Char := do
  match ← next with
  | none => cutOff "EOF while parsing a string"
  | some 'u' =>
    skip
    let code ← hexEscape
    if !checked then return '\uFFFD'
    else if isTrailing code then malformed "lone leading surrogate in hex escape"
    else if isLeading code then trailingEscape code
    else return Char.ofNat code
  | some sign =>
    match shortEscape? sign with
    | some character =>
      skip
      return character
    | none => malformed "invalid escape"

/-- Takes the rest of a string of at most `fuel` characters. -/
def stringWithin (checked : Bool) : (fuel : Nat) → JsonReader (List Char)
  | 0 => cutOff "EOF while parsing a string"
  | fuel + 1 => do
    match ← next with
    | none => cutOff "EOF while parsing a string"
    | some '"' =>
      skip
      return []
    | some '\\' =>
      skip
      let character ← escape checked
      return character :: (← stringWithin checked fuel)
    | some character =>
      if character.toNat < 0x20 then malformed "control character while parsing a string"
      else
        skip
        return character :: (← stringWithin checked fuel)

/-- Takes the rest of a string behind its first quotation mark. -/
def string : JsonReader String := do
  let characters ← stringWithin true ((← get).length + 1)
  return String.ofList characters

/-- Takes the rest of a string that is not asked for. -/
def skipString : JsonReader Unit := do
  discard (stringWithin false ((← get).length + 1))

/-- Takes decimal digits. -/
def digits : JsonReader (List Char) := do
  let text ← get
  set (text.dropWhile Char.isDigit)
  return text.takeWhile Char.isDigit

/-- Greatest natural number that is kept exactly. -/
def greatestExact : Nat := 2 ^ (64 : Nat) - 1

/-- A number with as many further digits as it can be kept exactly with, and the digits left over.
-/
def absorb (value : Nat) : List Char → Nat × List Char
  | [] => (value, [])
  | digit :: rest =>
    let longer := 10 * value + (digit.toNat - '0'.toNat)
    if longer ≤ greatestExact then absorb longer rest else (value, digit :: rest)

/-- Greatest power of ten in the 64-bit binary format. -/
private def greatestPower : Nat := 308

/-- A power of ten in the 64-bit binary format. -/
private def powerOfTen (power : Nat) : Ratio :=
  match BinaryFormat.double.round? (.ofNat (10 ^ power)) with
  | some number => number.ratio
  | none => .ofNat (10 ^ power)

/-- The product of a number and a power of ten, every step being rounded to the 64-bit binary
format; nothing if it is too great. More than four steps bring every number to zero. -/
private def timesPower : (fuel : Nat) → Dyadic → Int → Option Dyadic
  | 0, _, _ => some ⟨0, 0⟩
  | fuel + 1, number, power =>
    let ratio := number.ratio
    if power.natAbs ≤ greatestPower then
      let scale := powerOfTen power.natAbs
      if 0 ≤ power then
        BinaryFormat.double.round?
          ⟨ratio.numerator * scale.numerator, ratio.denominator * scale.denominator⟩
      else
        BinaryFormat.double.round?
          ⟨ratio.numerator * scale.denominator, ratio.denominator * scale.numerator⟩
    else if number.mantissa = 0 then some number
    else if 0 ≤ power then none
    else do
      let scale := powerOfTen greatestPower
      let smaller ← BinaryFormat.double.round?
        ⟨ratio.numerator * scale.denominator, ratio.denominator * scale.numerator⟩
      timesPower fuel smaller (power + greatestPower)

/-- A number of exact digits and a power of ten. -/
private def fromParts (isNegative : Bool) (significand : Nat) (power : Int) :
    JsonReader JsonNumber :=
  match (BinaryFormat.double.round? (.ofNat significand)).bind (timesPower 5 · power) with
  | some magnitude => return .floating isNegative magnitude
  | none => malformed "number out of range"

/-- Takes an exponent behind its letter. -/
private def exponent (isNegative : Bool) (significand : Nat) (power : Int) :
    JsonReader JsonNumber := do
  let sign ← next
  if sign = some '+' ∨ sign = some '-' then skip
  match ← next with
  | none => cutOff "EOF while parsing a value"
  | some first =>
    if !first.isDigit then malformed "invalid number"
    else
      let value := Nat.ofDigitChars 10 (← digits) 0
      if value < 2 ^ (31 : Nat) then
        fromParts isNegative significand (if sign = some '-' then power - value else power + value)
      else if significand ≠ 0 ∧ sign ≠ some '-' then malformed "number out of range"
      else return .floating isNegative ⟨0, 0⟩

/-- Whether a character begins an exponent. -/
def isExponentMark (character : Option Char) : Bool :=
  character = some 'e' || character = some 'E'

/-- Takes decimals behind their point. -/
private def decimals (isNegative : Bool) (significand : Nat) (power : Int) :
    JsonReader JsonNumber := do
  let found ← digits
  if found = [] then
    match ← next with
    | none => cutOff "EOF while parsing a value"
    | some _ => malformed "invalid number"
  else
    let (longer, left) := absorb significand found
    let lower := power - (found.length - left.length : Nat)
    if isExponentMark (← next) then
      skip
      exponent isNegative longer lower
    else fromParts isNegative longer lower

/-- Takes a number behind its sign. -/
def number (isNegative : Bool) : JsonReader JsonNumber := do
  match ← next with
  | none => cutOff "EOF while parsing a value"
  | some first =>
    let found ← digits
    if found = [] ∨ (first = '0' ∧ 1 < found.length) then malformed "invalid number"
    else
      let (significand, left) := absorb 0 found
      let following ← next
      if following = some '.' then
        skip
        decimals isNegative significand left.length
      else if isExponentMark following then
        skip
        exponent isNegative significand left.length
      else if left ≠ [] then fromParts isNegative significand left.length
      else if !isNegative then return .natural significand
      else if 0 < significand ∧ significand ≤ 2 ^ (63 : Nat) then return .negative (-significand)
      else fromParts isNegative significand 0

/-! ## Values that are asked for -/

/-- Takes a value of a type that is not expected as far as is needed to name it. -/
def refuse (expected : String) : JsonReader Result := do
  match ← next with
  | some 'n' =>
    word ['n', 'u', 'l', 'l']
    invalidType .null expected
  | some 't' =>
    word ['t', 'r', 'u', 'e']
    invalidType (.bool true) expected
  | some 'f' =>
    word ['f', 'a', 'l', 's', 'e']
    invalidType (.bool false) expected
  | some '-' =>
    skip
    invalidType (← number true).finding expected
  | some '"' =>
    skip
    invalidType (.string (← string)) expected
  | some '[' => invalidType .sequence expected
  | some '\x7b' => invalidType .map expected
  | some other =>
    if other.isDigit then invalidType (← number false).finding expected
    else malformed "expected value"
  | none => cutOff "EOF while parsing a value"

/-- Takes a number where one is expected. -/
def expectNumber (expected : String) : JsonReader JsonNumber := do
  match ← peek with
  | none => cutOff "EOF while parsing a value"
  | some '-' =>
    skip
    number true
  | some other => if other.isDigit then number false else refuse expected

/-- Takes an integer in a range where one is expected. -/
def expectInteger (expected : String) (type : IntegerType) : JsonReader Integer := do
  match ← expectNumber expected with
  | .floating isNegative magnitude => invalidType (.floating isNegative magnitude) expected
  | .natural value => held value
  | .negative value => held value
where
  /-- An integer that its type must hold. -/
  held (value : Int) : JsonReader Integer :=
    match Integer.ofInt? type value with
    | some integer => return integer
    | none => invalidValue (.integer value) expected

/-- Takes nothing, or what stands in its place. -/
def orNull (read : JsonReader Result) : JsonReader (Option Result) := do
  match ← peek with
  | some 'n' =>
    word ['n', 'u', 'l', 'l']
    return none
  | _ => some <$> read

/-- Takes nothing where it is expected. -/
def expectNull (expected : String) : JsonReader Unit := do
  match ← peek with
  | none => cutOff "EOF while parsing a value"
  | some 'n' => word ['n', 'u', 'l', 'l']
  | some _ => refuse expected

/-- Takes the colon behind a name. -/
def colon : JsonReader Unit := do
  match ← peek with
  | some ':' => skip
  | some _ => malformed "expected `:`"
  | none => cutOff "EOF while parsing an object"

/-! ## Values that are passed over -/

/-- Takes a number that is not asked for, behind its sign. -/
private def skipNumber : JsonReader Unit := do
  let first ← next
  let found ← digits
  if found = [] ∨ (first = some '0' ∧ 1 < found.length) then malformed "invalid number"
  else
    if (← next) = some '.' then
      skip
      if (← digits) = [] then malformed "invalid number"
    if isExponentMark (← next) then
      skip
      let sign ← next
      if sign = some '+' ∨ sign = some '-' then skip
      if (← digits) = [] then malformed "invalid number"

mutual

/-- Takes a value that is not asked for. A value of `n` characters needs at most `2 * n + 1` units
of `fuel`: one unit for itself, and one for each of its elements or members, which take a character
each besides what they hold. -/
private def skipWithin : (fuel : Nat) → JsonReader Unit
  | 0 => cutOff "EOF while parsing a value"
  | fuel + 1 => do
    match ← peek with
    | none => cutOff "EOF while parsing a value"
    | some 'n' => word ['n', 'u', 'l', 'l']
    | some 't' => word ['t', 'r', 'u', 'e']
    | some 'f' => word ['f', 'a', 'l', 's', 'e']
    | some '-' =>
      skip
      skipNumber
    | some '"' =>
      skip
      skipString
    | some '[' =>
      skip
      if (← peek) = some ']' then skip else skipElements fuel
    | some '\x7b' =>
      skip
      if (← peek) = some '\x7d' then skip else skipMembers fuel
    | some other => if other.isDigit then skipNumber else malformed "expected value"

/-- Takes the elements of an array and its end. -/
private def skipElements : (fuel : Nat) → JsonReader Unit
  | 0 => cutOff "EOF while parsing a list"
  | fuel + 1 => do
    if (← peek).isNone then cutOff "EOF while parsing a list"
    skipWithin fuel
    match ← peek with
    | some ',' =>
      skip
      skipElements fuel
    | some ']' => skip
    | some _ => malformed "expected `,` or `]`"
    | none => cutOff "EOF while parsing a list"

/-- Takes the members of an object and its end. -/
private def skipMembers : (fuel : Nat) → JsonReader Unit
  | 0 => cutOff "EOF while parsing an object"
  | fuel + 1 => do
    match ← peek with
    | none => cutOff "EOF while parsing an object"
    | some '"' => skip
    | some _ => malformed "key must be a string"
    skipString
    colon
    skipWithin fuel
    match ← peek with
    | some ',' =>
      skip
      skipMembers fuel
    | some '\x7d' => skip
    | some _ => malformed "expected `,` or `\x7d`"
    | none => cutOff "EOF while parsing an object"

end

/-- Takes a value that is not asked for. -/
def skipValue : JsonReader Unit := do
  skipWithin (2 * (← get).length + 1)

/-- Whether a further name of an object follows, which is then begun; `first` says that none was
taken yet. -/
def hasName (first : Bool) : JsonReader Bool := do
  match ← peek with
  | none => cutOff "EOF while parsing an object"
  | some '\x7d' => return false
  | some ',' =>
    if first then malformed "key must be a string"
    else
      skip
      match ← peek with
      | some '"' =>
        skip
        return true
      | some '\x7d' => malformed "trailing comma"
      | some _ => malformed "key must be a string"
      | none => cutOff "EOF while parsing a value"
  | some found =>
    if !first then malformed "expected `,` or `\x7d`"
    else if found = '"' then
      skip
      return true
    else malformed "key must be a string"

/-- Whether a further element of an array follows; `first` says that none was taken yet. -/
def hasElement (first : Bool) : JsonReader Bool := do
  match ← peek with
  | none => cutOff "EOF while parsing a list"
  | some ']' => return false
  | some ',' =>
    if first then return true
    else
      skip
      match ← peek with
      | some ']' => malformed "trailing comma"
      | some _ => return true
      | none => cutOff "EOF while parsing a value"
  | some _ => if first then return true else malformed "expected `,` or `]`"

/-- Takes the end of an array that has no further elements. -/
def closeArray : JsonReader Unit := do
  match ← peek with
  | some ']' => skip
  | some _ => malformed "trailing characters"
  | none => cutOff "EOF while parsing a list"

/-! ## Whole texts -/

/-- What a text holds that is read from its beginning to its end. -/
def readAll (read : JsonReader Result) (text : String) : Except JsonError Result := do
  let (result, rest) ← read.run text.toList
  if (rest.dropWhile isSpace).isEmpty then return result
  else throw ⟨.malformed, "trailing characters", none⟩

end JsonReader

end LogTree
