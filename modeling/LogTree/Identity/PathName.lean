import LogTree.Text.Quoted
import LogTree.Text.Utf8

/-!
# Names of files

A path is a sequence of bytes that need not be text. Two paths are the same name if they run through
the same components, however many separators stand between these.
-/

namespace LogTree

/-- A path as the bytes it was given by. -/
structure PathName where
  /-- The bytes of the path. -/
  bytes : List UInt8
deriving Repr

/-- A component of a path. -/
inductive PathComponent where
  /-- The root of all files, in front of an absolute path. -/
  | root
  /-- The current directory, in front of a relative path. -/
  | current
  /-- The directory above. -/
  | parent
  /-- A name. -/
  | normal (name : List UInt8)
deriving DecidableEq, Repr

namespace PathName

/-- The byte of the separator. -/
private def separator : UInt8 := 0x2F

/-- The byte of the point. -/
private def point : UInt8 := 0x2E

/-- The pieces of bytes between separators. -/
private def pieces : List UInt8 → List (List UInt8)
  | [] => [[]]
  | byte :: rest =>
    if byte = separator then [] :: pieces rest
    else match pieces rest with
      | [] => [[byte]]
      | piece :: further => (byte :: piece) :: further

/-- The component of a piece that is not the first one; empty pieces and the current directory are
passed over. -/
private def component? (piece : List UInt8) : Option PathComponent :=
  if piece = [] ∨ piece = [point] then none
  else if piece = [point, point] then some .parent
  else some (.normal piece)

/-- The components of the path in order. -/
def components (path : PathName) : List PathComponent :=
  match pieces path.bytes with
  | [] => []
  | first :: further =>
    let start :=
      if first = [] then if further = [] then [] else [.root]
      else if first = [point] then [.current]
      else (component? first).toList
    start ++ further.filterMap component?

/-- Paths are the same if their components are. -/
instance : BEq PathName where
  beq left right := left.components == right.components

/-- The path of a text. -/
def ofText (text : String) : PathName :=
  ⟨Utf8.bytes text⟩

/-- The path as text, with replacement characters for what is none. -/
def text (path : PathName) : String :=
  Utf8.lossyText path.bytes

/-- The path between quotation marks, with hexadecimal digits for what is no text. -/
def debugText (path : PathName) : String :=
  String.ofList ('"' :: (Utf8.pieces path.bytes).flatMap piece ++ ['"'])
where
  piece : Utf8.Piece → List Char
    | .character value => Quoted.escaped ⟨true, true⟩ value
    | .broken bytes => bytes.flatMap fun byte => ['\\', 'x'] ++ Hex.upperByte byte

end PathName

end LogTree
