import LogTree.Error

/-!
# Limits of capturing

How deep values are taken apart, how long texts may be, and how many elements of a collection are
kept. The first limit that cannot be used is reported.
-/

namespace LogTree

/-- The limits of capturing. -/
structure Limits where
  /-- Levels that are taken apart before values are kept as text; may not be negative. -/
  depth : Int32 := 10
  /-- Greatest length of a text, the mark of a cut included; at least two if there is one. -/
  textLength : Option UInt64 := none
  /-- Greatest number of elements of a collection; at least one if there is one. -/
  collectionCount : Option UInt64 := none
deriving DecidableEq, Repr

namespace Limits

/-- Name under which the limits report errors. -/
def componentName : String := "ConverterConfig"

/-- An error of the limits. -/
private def invalid (message : String) : CaptureError :=
  .invalidConfiguration componentName message

/-- The error of the first limit that cannot be used. -/
def error? (limits : Limits) : Option CaptureError :=
  if limits.depth < 0 then
    some (invalid ("maximum_destructuring_depth must not be negative, got " ++
      String.ofList (Digits.signed limits.depth.toInt)))
  else match limits.textLength with
    | some length =>
      if length < 2 then
        some (invalid ("maximum_string_length must be at least 2, got " ++
          String.ofList (Digits.decimal length.toNat)))
      else countError? limits
    | none => countError? limits
where
  /-- The error of a count that cannot be used. -/
  countError? (limits : Limits) : Option CaptureError :=
    if limits.collectionCount = some 0 then
      some (invalid "maximum_collection_count must be at least 1")
    else none

/-- Whether every limit can be used. -/
def Valid (limits : Limits) : Prop :=
  limits.error? = none

instance (limits : Limits) : Decidable limits.Valid :=
  inferInstanceAs (Decidable (_ = _))

/-- The error of the first limit that cannot be used, if there is one. -/
def validate (limits : Limits) : Except CaptureError Unit :=
  match limits.error? with
  | some error => .error error
  | none => .ok ()

end Limits

end LogTree
