import LogTree.Capture.Converter
import LogTree.Text.Blank
import LogTree.Tree.Document
import LogTree.Tree.Render

/-!
# Captured properties

A property is a tree under a name that is not blank. The properties of one log event keep the order
in which their names were captured first; capturing a name again replaces its tree. A run of
captures stops at the first blank name.
-/

namespace LogTree

/-- A tree under a name that is not blank. -/
structure Property where
  /-- The name. -/
  name : String
  /-- The tree. -/
  tree : Tree
  /-- The name holds more than white space. -/
  named : isBlank name = false

namespace Property

/-- A property, or the error of a blank name. -/
def make (name : String) (tree : Tree) : Except CaptureError Property :=
  if named : isBlank name = false then .ok ⟨name, tree, named⟩
  else .error (.invalidPropertyName name)

/-- Text of the property. -/
def display (property : Property) : String :=
  property.name ++ ": " ++ property.tree.display

/-- The property as a document with one member. -/
def document (property : Property) : Json :=
  .object [(property.name, property.tree.document)]

/-- Properties as one JSON value with a member for each name. -/
def jsonValue (properties : List Property) : Json :=
  .object (Entries.ofList (properties.map fun property =>
    (property.name, property.tree.jsonValue)))

end Property

/-- The properties of one log event. -/
structure CapturedProperties where
  /-- The properties in order. -/
  properties : List Property := []

namespace CapturedProperties

/-- A property put into a list, in the place of the one of the same name if there is one. -/
def put (property : Property) : List Property → List Property
  | [] => [property]
  | existing :: rest =>
    if existing.name = property.name then property :: rest else existing :: put property rest

/-- The properties with a further one. -/
def add (captured : CapturedProperties) (property : Property) : CapturedProperties :=
  ⟨put property captured.properties⟩

/-- The tree of a name. -/
def get? (captured : CapturedProperties) (name : String) : Option Tree :=
  (captured.properties.find? (·.name = name)).map (·.tree)

/-- Names and trees in order. -/
def entries (captured : CapturedProperties) : List (String × Tree) :=
  captured.properties.map fun property => (property.name, property.tree)

/-- Whether there are no properties. -/
def isEmpty (captured : CapturedProperties) : Bool :=
  captured.properties.isEmpty

/-- Each name with its tree behind an equals sign, with blanks in between. -/
def fields (captured : CapturedProperties) : String :=
  " ".intercalate (captured.properties.map fun property =>
    property.name ++ "=" ++ property.tree.display)

/-- The properties as a JSON value. -/
def jsonValue (captured : CapturedProperties) : Json :=
  Property.jsonValue captured.properties

/-- Whether two sets of properties hold the same trees under the same names in the same order. -/
def same (left right : CapturedProperties) : Bool :=
  (Tree.record none left.entries).same (.record none right.entries)

instance : BEq CapturedProperties := ⟨same⟩

end CapturedProperties

namespace Converter

/-- A value captured under a name, taken apart or not. -/
def createProperty (converter : Converter) (objects : Objects) (name : String) (value : Value)
    (destructure : Bool) : Logged (Except CaptureError Property) := do
  let tree ← converter.convert objects (if destructure then .destructure else .default) value
  return Property.make name tree

end Converter

/-- A value to be captured under a name in a mode. -/
structure CaptureStep where
  /-- The name. -/
  name : String
  /-- The value. -/
  value : Value
  /-- How the value is captured. -/
  mode : Mode

/-- A run of captures: the properties so far, or the error of the first blank name. -/
structure CaptureRun where
  /-- What converts the values. -/
  converter : Converter
  /-- The objects that members lead to. -/
  objects : Objects
  /-- What was captured so far. -/
  outcome : Except CaptureError CapturedProperties := .ok {}

namespace CaptureRun

/-- The run after a further capture; after an error nothing is captured any more. -/
def capture (run : CaptureRun) (step : CaptureStep) : Logged CaptureRun :=
  match run.outcome with
  | .error _ => pure run
  | .ok captured => do
    let tree ← run.converter.convert run.objects step.mode step.value
    return { run with
      outcome := match Property.make step.name tree with
        | .ok property => .ok (captured.add property)
        | .error error => .error error }

/-- The run after further captures. -/
def captureAll (run : CaptureRun) : List CaptureStep → Logged CaptureRun
  | [] => pure run
  | step :: steps => do
    let next ← run.capture step
    next.captureAll steps

end CaptureRun

end LogTree
