import LogTree.Capture.Converter

/-!
# Depth limiters

A depth limiter hands values to a converter as long as its own depth does not exceed its own
maximum. The values below those that it hands over are bounded by the maximum of the converter.
-/

namespace LogTree

/-- A converter at a depth, with a greatest depth from which on values are kept as text. -/
structure DepthLimiter where
  /-- The converter. -/
  converter : Converter
  /-- The depth of the values that surround those to be converted. -/
  current : Nat
  /-- The greatest depth at which values are handed to the converter. -/
  maximum : Nat

namespace DepthLimiter

/-- The tree of a value inside of the surrounding one. -/
def nested (limiter : DepthLimiter) (objects : Objects) (mode : Mode) (value : Value) :
    Logged Tree :=
  if limiter.maximum < limiter.current then
    limiter.converter.flattened limiter.maximum value
  else limiter.converter.createAt objects (limiter.current + 1) mode value

/-- The factory that the limiter is for policies. -/
def factory (limiter : DepthLimiter) (objects : Objects) : Factory :=
  limiter.converter.factory objects (limiter.nested objects)

end DepthLimiter

namespace Converter

/-- The limiter that the values inside of a value at a depth are given to. -/
def limiterAt (converter : Converter) (depth : Nat) : DepthLimiter :=
  ⟨converter, depth, converter.depth⟩

/-- The conversion with some levels left is that of the limiter at the depth that leaves them. -/
theorem nested_eq_limiter (converter : Converter) (objects : Objects) (depth : Nat) :
    converter.nested objects (converter.depth + 1 - depth) =
      (converter.limiterAt depth).nested objects := by
  funext mode value
  by_cases deep : converter.depth < depth
  · have none_left : converter.depth + 1 - depth = 0 := by omega
    simp [DepthLimiter.nested, limiterAt, none_left, nested, deep]
  · have some_left : converter.depth + 1 - depth = (converter.depth + 1 - (depth + 1)) + 1 := by
      omega
    rw [some_left]
    simp [DepthLimiter.nested, limiterAt, nested, deep, createAt]

/-- The factory that the converter itself is: values stand at the outermost depth. -/
def asFactory (converter : Converter) (objects : Objects) : Factory where
  create value mode :=
    match value with
    | none => pure .null
    | some present => converter.convert objects mode present
  scalar := ((converter.limiterAt 1).factory objects).scalar
  objects := objects

end Converter

end LogTree
