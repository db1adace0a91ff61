/-!
# Ranges of characters

A class of characters is given by the ranges of code points that belong to it.
-/

namespace LogTree

/-- A character class as a list of closed ranges of code points. -/
structure CharRanges where
  /-- First and last code point of each range. -/
  ranges : List (Nat × Nat)

namespace CharRanges

/-- Whether a character belongs to the class. -/
def contains (charClass : CharRanges) (character : Char) : Bool :=
  charClass.ranges.any fun range => range.1 ≤ character.toNat && character.toNat ≤ range.2

end CharRanges

end LogTree
