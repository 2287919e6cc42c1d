import ValuedGraph.Text.Ranges

/-!
# Blanks

The characters that count as blank around a text, and their removal.

* `strip`: a text without the blanks at its ends.
-/

namespace ValuedGraph

/-- The boundaries of the blanks: ASCII whitespace and the four ASCII separators, the next
line character, and the space, line and paragraph separators of Unicode. -/
def blankBoundaries : List Nat :=
  [0x9, 0xe, 0x1c, 0x21, 0x85, 0x86, 0xa0, 0xa1, 0x1680, 0x1681, 0x2000, 0x200b, 0x2028, 0x202a,
   0x202f, 0x2030, 0x205f, 0x2060, 0x3000, 0x3001]

/-- Whether a character is blank. -/
def isBlank (c : Char) : Bool := withinBoundaries blankBoundaries c

/-- Whether a character is one of the six ASCII blanks. -/
def isAsciiBlank (c : Char) : Bool := c == ' ' || (0x9 ≤ c.toNat && c.toNat ≤ 0xd)

/-- Drops the characters at both ends that satisfy a test. -/
def stripWhile (p : Char → Bool) (cs : List Char) : List Char :=
  ((cs.dropWhile p).reverse.dropWhile p).reverse

/-- **A text without the blanks at its ends.** -/
def strip (s : String) : String := String.ofList (stripWhile isBlank s.toList)

end ValuedGraph
