import LogTree.Capture.Converter

/-!
# Building converters

A builder collects limits, registered types and policies in any order, the last value of a limit
counting, and makes a converter of them if the limits can be used.
-/

namespace LogTree

/-- What a converter is going to be made of. -/
structure ConverterBuilder where
  /-- The limits. -/
  limits : Limits := {}
  /-- The types whose values are to be scalars. -/
  registered : List RegisteredType := []
  /-- The scalar policies to be added. -/
  scalarPolicies : List ScalarPolicy := []
  /-- The destructuring policies to be added. -/
  destructuringPolicies : List DestructuringPolicy := []

/-- A call on a builder. -/
inductive BuilderStep where
  /-- Replaces all limits. -/
  | limits (value : Limits)
  /-- Replaces the depth. -/
  | depth (value : Int32)
  /-- Sets the greatest length of a text. -/
  | textLength (value : UInt64)
  /-- Sets the greatest number of elements of a collection. -/
  | collectionCount (value : UInt64)
  /-- Adds registered types behind those that are there. -/
  | registered (types : List RegisteredType)
  /-- Adds a scalar policy behind those that are there. -/
  | scalarPolicy (policy : ScalarPolicy)
  /-- Adds a destructuring policy behind those that are there. -/
  | destructuringPolicy (policy : DestructuringPolicy)

namespace ConverterBuilder

/-- The builder after a call. -/
def step (builder : ConverterBuilder) : BuilderStep → ConverterBuilder
  | .limits value => { builder with limits := value }
  | .depth value => { builder with limits := { builder.limits with depth := value } }
  | .textLength value =>
    { builder with limits := { builder.limits with textLength := some value } }
  | .collectionCount value =>
    { builder with limits := { builder.limits with collectionCount := some value } }
  | .registered types => { builder with registered := builder.registered ++ types }
  | .scalarPolicy policy =>
    { builder with scalarPolicies := builder.scalarPolicies ++ [policy] }
  | .destructuringPolicy policy =>
    { builder with destructuringPolicies := builder.destructuringPolicies ++ [policy] }

/-- The builder after calls in order. -/
def steps (builder : ConverterBuilder) (calls : List BuilderStep) : ConverterBuilder :=
  calls.foldl step builder

/-- The converter, or the error of the first limit that cannot be used. -/
def build (builder : ConverterBuilder) : Except CaptureError Converter :=
  match valid : builder.limits.error? with
  | some error => .error error
  | none => .ok
      { limits := builder.limits
        valid
        registered := builder.registered
        scalarPolicies := builder.scalarPolicies
        destructuringPolicies := builder.destructuringPolicies }

end ConverterBuilder

namespace Converter

/-- A converter of a depth, registered types and destructuring policies, without other limits. -/
def make (depth : Int32) (registered : List RegisteredType)
    (policies : List DestructuringPolicy) : Except CaptureError Converter :=
  (ConverterBuilder.steps {} (.depth depth :: .registered registered ::
    policies.map .destructuringPolicy)).build

end Converter

end LogTree
