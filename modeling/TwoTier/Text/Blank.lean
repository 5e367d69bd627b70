/-!
Blank characters and trimming.

Blank means the Unicode property `White_Space`: the ASCII blanks and eleven groups beyond them.
Trimming removes blanks from both ends of a text and leaves those inside it.
-/

namespace TwoTier.Text

/-- The code points with the property `White_Space`, as closed ranges. -/
def blankRanges : List (Nat × Nat) :=
  [(0x09, 0x0D), (0x20, 0x20), (0x85, 0x85), (0xA0, 0xA0), (0x1680, 0x1680), (0x2000, 0x200A),
   (0x2028, 0x2029), (0x202F, 0x202F), (0x205F, 0x205F), (0x3000, 0x3000)]

def inRanges (ranges : List (Nat × Nat)) (n : Nat) : Bool :=
  ranges.any fun r => decide (r.1 ≤ n) && decide (n ≤ r.2)

def isBlank (c : Char) : Bool := inRanges blankRanges c.toNat

/-- A list of characters without the blanks at its two ends. -/
def trimList (cs : List Char) : List Char :=
  ((cs.dropWhile isBlank).reverse.dropWhile isBlank).reverse

def trim (s : String) : String := String.ofList (trimList s.toList)

/-- The letters `A` to `Z` in lower case; every other character as it is. -/
def lowerAscii (s : String) : String := s.map Char.toLower

end TwoTier.Text
