/-
  This file defines blank characters, those with the Unicode
  property `White_Space`, and the removal of blanks from
  both ends of a text.

  Key definitions include:
    * `Text.isBlank`
    * `Text.trim`
-/

namespace FactStore

namespace Text

------------------------------------------------------------
-- Blank Characters
------------------------------------------------------------

/- The ranges of the property `White_Space`, ascending. -/
def blankRanges : List (Nat × Nat) :=
  [(0x09, 0x0D), (0x20, 0x20), (0x85, 0x85), (0xA0, 0xA0),
    (0x1680, 0x1680), (0x2000, 0x200A), (0x2028, 0x2029),
    (0x202F, 0x202F), (0x205F, 0x205F), (0x3000, 0x3000)]

/- Whether a number lies in one of the ranges. -/
def inRanges
    (ranges : List (Nat × Nat))
    (n : Nat) : Bool :=
  ranges.any fun range => range.1 ≤ n && n ≤ range.2

/- Whether a character is blank. -/
def isBlank (c : Char) : Bool :=
  inRanges blankRanges c.toNat

------------------------------------------------------------
-- Trimming
------------------------------------------------------------

/- Drop the blanks at the end of a text. -/
def trimEnd (cs : List Char) : List Char :=
  (cs.reverse.dropWhile isBlank).reverse

/- Drop the blanks at both ends of a text. -/
def trim (cs : List Char) : List Char :=
  trimEnd (cs.dropWhile isBlank)

end Text

end FactStore
