/-!
# Sets of characters as boundary lists

A set of code points is written as the ascending list of the code points at which
membership changes: the first entry starts the first range, the second ends it, and so on.
A code point is in the set iff an odd number of boundaries are at or below it.
-/

namespace ValuedGraph

/-- **Membership in a set of code points** given by its ascending boundaries. -/
def withinBoundaries (boundaries : List Nat) (c : Char) : Bool :=
  (boundaries.takeWhile (· ≤ c.toNat)).length % 2 == 1

end ValuedGraph
