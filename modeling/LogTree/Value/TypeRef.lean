import LogTree.Scalar.Basic

/-!
# Types of values

A type is one of the well-known scalar types or is known by its full name alone. The short name of a
type leaves out its path and its arguments.
-/

namespace LogTree

/-- How a text is held. -/
inductive TextHolding where
  /-- As a text of its own. -/
  | owned
  /-- As a reference to a text that is never given up. -/
  | borrowed
  /-- As either of the two. -/
  | either
deriving DecidableEq, Repr

/-- The well-known scalar types. -/
inductive ScalarType where
  | unit
  | bool
  | char
  | integer (type : IntegerType)
  | single
  | double
  | text (holding : TextHolding)
  | instant
  | offsetDateTime
  | localDateTime
  | date
  | time
  | duration
  | timeDelta
  | uuid
  | ip
  | socket
  | path
deriving DecidableEq, Repr

namespace ScalarType

/-- Full name of the type. -/
def fullName : ScalarType → String
  | unit => "()"
  | bool => "bool"
  | char => "char"
  | integer type => type.name
  | single => "f32"
  | double => "f64"
  | text .owned => "alloc::string::String"
  | text .borrowed => "&str"
  | text .either => "alloc::borrow::Cow<'_, str>"
  | instant => "chrono::datetime::DateTime<chrono::offset::utc::Utc>"
  | offsetDateTime => "chrono::datetime::DateTime<chrono::offset::fixed::FixedOffset>"
  | localDateTime => "chrono::naive::datetime::NaiveDateTime"
  | date => "chrono::naive::date::NaiveDate"
  | time => "chrono::naive::time::NaiveTime"
  | duration => "core::time::Duration"
  | timeDelta => "chrono::time_delta::TimeDelta"
  | uuid => "uuid::Uuid"
  | ip => "core::net::ip_addr::IpAddr"
  | socket => "core::net::socket_addr::SocketAddr"
  | path => "std::path::PathBuf"

end ScalarType

namespace Atom

/-- The type of an atom. -/
def type : Atom → ScalarType
  | bool _ => .bool
  | char _ => .char
  | integer value => .integer value.type
  | single _ => .single
  | double _ => .double
  | instant _ => .instant
  | offsetDateTime _ => .offsetDateTime
  | localDateTime _ => .localDateTime
  | date _ => .date
  | time _ => .time
  | duration _ => .duration
  | timeDelta _ => .timeDelta
  | uuid _ => .uuid
  | ip _ => .ip
  | socket _ => .socket
  | path _ => .path

end Atom

/-- A type: a well-known scalar type, or any other one by its full name. -/
inductive TypeRef where
  /-- A well-known scalar type. -/
  | scalar (type : ScalarType)
  /-- A type of a full name. -/
  | named (fullName : String)
deriving DecidableEq, Repr

namespace TypeRef

/-- Full name of the type. -/
def fullName : TypeRef → String
  | scalar type => type.fullName
  | named fullName => fullName

/-- The type that a constructor of a path makes of its arguments. -/
def applied (path : String) (arguments : List TypeRef) : TypeRef :=
  named (path ++ "<" ++ ", ".intercalate (arguments.map fullName) ++ ">")

/-- The type of optional values of a type. -/
def optional (content : TypeRef) : TypeRef :=
  applied "core::option::Option" [content]

end TypeRef

/-- The characters before the first two colons. -/
private def beforeColons : List Char → List Char
  | [] => []
  | ':' :: ':' :: _ => []
  | character :: rest => character :: beforeColons rest

/-- The name of a type without its arguments and its path. -/
def shortTypeName (fullName : String) : String :=
  let base := fullName.toList.takeWhile (· ≠ '<')
  String.ofList (beforeColons base.reverse).reverse

end LogTree
