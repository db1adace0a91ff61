import LogTree.Json.Error

/-!
# Errors of capturing

What can go wrong: limits that cannot be used, a name that is blank, a member that cannot be read, a
JSON text that is refused, or anything else that a caller reports.
-/

namespace LogTree

/-- A reason why something could not be captured. -/
inductive CaptureError where
  /-- A configuration that cannot be used. -/
  | invalidConfiguration (component message : String)
  /-- A property name without any visible character. -/
  | invalidPropertyName (name : String)
  /-- A member whose accessor failed. -/
  | memberAccess (member message : String)
  /-- A JSON text that was refused. -/
  | json (error : JsonError)
  /-- Any other reason. -/
  | other (message : String)
deriving DecidableEq, Repr, Inhabited

namespace CaptureError

/-- Text of the error. -/
def message : CaptureError → String
  | invalidConfiguration component message =>
    "Invalid configuration for " ++ component ++ ": " ++ message
  | invalidPropertyName name => "Invalid property name: '" ++ name ++ "'"
  | memberAccess member message => "Accessor for member '" ++ member ++ "' failed: " ++ message
  | json error => "JSON error: " ++ error.message
  | other message => message

end CaptureError

end LogTree
