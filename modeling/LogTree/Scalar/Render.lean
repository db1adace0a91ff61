import LogTree.Number.Format
import LogTree.Scalar.Basic
import LogTree.Time.Pattern

/-!
# Rendering of scalars

A scalar is rendered with an optional format and optional separators. Each kind of scalar
understands formats of its own; a format that is not understood leaves the default form, in which a
text stands between quotation marks.
-/

namespace LogTree.Scalar

attribute [local instance (high)] instPowNat

/-- The separators to use when none may be given. -/
def separatorsOf (provider : Option Separators) : Separators :=
  provider.getD .invariant

/-- A text between quotation marks, those inside of it escaped. -/
def quoted (content : String) : String :=
  String.ofList ('"' :: content.toList.flatMap escaped ++ ['"'])
where
  escaped (character : Char) : List Char :=
    if character = '"' then ['\\', '"'] else [character]

/-- A text with another decimal separator in place of the point. -/
def withDecimal (separators : Separators) (content : String) : String :=
  String.ofList (content.toList.map fun character =>
    if character = '.' then separators.decimal else character)

/-- A constant in a format: its number, the eight hexadecimal digits of its number's low half, or
its name. -/
def constantFormatted? (format : String) (constant : EnumConstant) : Option String :=
  match format with
  | "D" | "d" => some (String.ofList (Digits.signed constant.value.toInt))
  | "X" | "x" =>
    some (String.ofList (Digits.padded 8 '0'
      (Digits.upperHex (constant.value.toInt % 2 ^ (32 : Nat)).toNat)))
  | "G" | "g" => some constant.name
  | _ => none

/-- A floating point number in a numeric format. -/
def floatFormatted? (format : String) (provider : Option Separators) (datum : FloatDatum) :
    Option String := do
  let numeric ← NumericFormat.ofText? format
  let characters ← datum.formatted? (separatorsOf provider) numeric
  return String.ofList characters

/-- An atom in a format, or nothing if the format is not understood. -/
def atomFormatted? (format : String) (provider : Option Separators) : Atom → Option String
  | .integer value => do
    let numeric ← NumericFormat.ofText? format
    return String.ofList (value.formatted (separatorsOf provider) numeric)
  | .single bits => floatFormatted? format provider (singleDatum bits)
  | .double bits => floatFormatted? format provider (doubleDatum bits)
  | .instant moment => (PatternParts.ofUniversal moment).format? format
  | .offsetDateTime moment => (PatternParts.ofOffset moment).format? format
  | .localDateTime moment => (PatternParts.ofLocal moment).format? format
  | .date value => (PatternParts.ofDate value).format? format
  | .time value => (PatternParts.ofTime value).format? format
  | _ => none

/-- The scalar in a format, or nothing if the format is not understood. -/
def formatted? (format : String) (provider : Option Separators) : Scalar → Option String
  | .atom value => atomFormatted? format provider value
  | .text content => if format = "l" then some content else none
  | .constant value => constantFormatted? format value
  | _ => none

/-- The scalar without a format. -/
def rendered (provider : Option Separators) : Scalar → String
  | .text content => quoted content
  | .atom (.single bits) =>
    withDecimal (separatorsOf provider) ((singleDatum bits).text .single .plain)
  | .atom (.double bits) =>
    withDecimal (separatorsOf provider) ((doubleDatum bits).text .double .plain)
  | other => other.display

/-- The scalar in a format that it understands, and without one otherwise. -/
def render (format : Option String) (provider : Option Separators) (scalar : Scalar) : String :=
  ((format.bind fun text => scalar.formatted? text provider)).getD (scalar.rendered provider)

end LogTree.Scalar
