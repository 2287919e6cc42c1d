import ValuedGraph.Text.Ranges

/-!
# Lines

A text ends a line with any of the line ends of Unicode, and a carriage return together with the
line feed behind it is one of them. Behind the last line end there is no further line unless it
has characters.

* `splitLines`: the lines of a text.
-/

namespace ValuedGraph

/-- The boundaries of the characters that end a line. -/
def lineEndBoundaries : List Nat := [0xa, 0xe, 0x1c, 0x1f, 0x85, 0x86, 0x2028, 0x202a]

/-- Whether a character ends a line. -/
def isLineEnd (c : Char) : Bool := withinBoundaries lineEndBoundaries c

/-- The lines of a text behind characters of its first line in reverse order. -/
def splitLinesFrom (before : List Char) : List Char → List (List Char)
  | [] => if before.isEmpty then [] else [before.reverse]
  | '\r' :: '\n' :: rest => before.reverse :: splitLinesFrom [] rest
  | c :: rest =>
    if isLineEnd c then before.reverse :: splitLinesFrom [] rest
    else splitLinesFrom (c :: before) rest

/-- **The lines of a text.** -/
def splitLines (cs : List Char) : List (List Char) := splitLinesFrom [] cs

end ValuedGraph
