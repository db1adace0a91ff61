/-!
# Bytes as text

Reading of bytes as UTF-8. Bytes that are no text are cut into the longest beginnings of a character
that the bytes hold, so every byte belongs to one piece.
-/

namespace LogTree.Utf8

/-- A piece of a byte sequence: a character, or bytes that are none. -/
inductive Piece where
  /-- The bytes of one character. -/
  | character (value : Char)
  /-- Bytes that begin no character, or begin one and break off. -/
  | broken (bytes : List UInt8)
deriving DecidableEq, Repr

/-- Whether a byte lies in a closed range. -/
private def within (low high byte : UInt8) : Bool :=
  low ≤ byte && byte ≤ high

/-- Whether a byte continues a character. -/
private def continues : UInt8 → Bool :=
  within 0x80 0xBF

/-- The six low bits of a continuing byte. -/
private def low (byte : UInt8) : Nat :=
  byte.toNat % 64

/-- What may follow a leading byte: the number of continuing bytes, the range of the first of them,
and the bits of the leading byte. -/
private def lead? (byte : UInt8) : Option (Nat × UInt8 × UInt8 × Nat) :=
  if within 0xC2 0xDF byte then some (1, 0x80, 0xBF, byte.toNat - 0xC0)
  else if byte = 0xE0 then some (2, 0xA0, 0xBF, 0)
  else if byte = 0xED then some (2, 0x80, 0x9F, 0xD)
  else if within 0xE1 0xEF byte then some (2, 0x80, 0xBF, byte.toNat - 0xE0)
  else if byte = 0xF0 then some (3, 0x90, 0xBF, 0)
  else if within 0xF1 0xF3 byte then some (3, 0x80, 0xBF, byte.toNat - 0xF0)
  else if byte = 0xF4 then some (3, 0x80, 0x8F, 4)
  else none

/-- The first piece of a nonempty byte sequence and the number of bytes it takes. -/
private def first (byte : UInt8) (rest : List UInt8) : Piece × Nat :=
  if byte < 0x80 then (.character (Char.ofNat byte.toNat), 1)
  else match lead? byte with
    | none => (.broken [byte], 1)
    | some (count, least, greatest, bits) =>
      match rest with
      | second :: further =>
        if within least greatest second then
          let tail := (further.take (count - 1)).takeWhile continues
          if tail.length = count - 1 then
            let code := (second :: tail).foldl (fun code next => 64 * code + low next) bits
            (.character (Char.ofNat code), count + 1)
          else (.broken (byte :: second :: tail), tail.length + 2)
        else (.broken [byte], 1)
      | [] => (.broken [byte], 1)

/-- The pieces of the first `fuel` bytes and more; every piece takes at least one byte. -/
private def piecesWithin : Nat → List UInt8 → List Piece
  | _, [] => []
  | 0, _ :: _ => []
  | fuel + 1, byte :: rest =>
    let (piece, count) := first byte rest
    piece :: piecesWithin fuel (rest.drop (count - 1))

/-- The pieces of a byte sequence in order. -/
def pieces (bytes : List UInt8) : List Piece :=
  piecesWithin bytes.length bytes

/-- The text of the bytes if they are one. -/
def text? (bytes : List UInt8) : Option String :=
  (pieces bytes).foldr
    (fun piece rest => match piece, rest with
      | .character value, some characters => some (value :: characters)
      | _, _ => none)
    (some []) |>.map String.ofList

/-- The text of the bytes, each broken piece shown as one replacement character. -/
def lossyText (bytes : List UInt8) : String :=
  String.ofList ((pieces bytes).map fun
    | .character value => value
    | .broken _ => '\uFFFD')

/-- The bytes of a text. -/
def bytes (text : String) : List UInt8 :=
  text.toUTF8.toList

end LogTree.Utf8
