import LogTree.Text.CharRanges

/-!
# Blank text

A character is blank if it has the Unicode property White_Space; a text is blank if all its
characters are, so the empty text is blank.
-/

namespace LogTree

/-- The characters with the property White_Space. -/
def CharRanges.whiteSpace : CharRanges where
  ranges := [(0x9, 0xD), (0x20, 0x20), (0x85, 0x85), (0xA0, 0xA0), (0x1680, 0x1680),
    (0x2000, 0x200A), (0x2028, 0x2029), (0x202F, 0x202F), (0x205F, 0x205F), (0x3000, 0x3000)]

/-- Whether a character is white space. -/
def isBlankChar (character : Char) : Bool :=
  CharRanges.whiteSpace.contains character

/-- Whether a text holds nothing but white space. -/
def isBlank (text : String) : Bool :=
  text.toList.all isBlankChar

end LogTree
