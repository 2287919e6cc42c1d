import ValuedGraph.Number.Binary64

/-!
# Sums of doubles

Two sums that are more careful than adding from left to right.

* `exactSum` keeps the exact sum as a list of parts that do not overlap and rounds once, at
  the end. It has no result if a part leaves the range of doubles or if infinities of both
  signs occur.
* `compensatedSum` carries the rounding error of each addition along and adds it at the end.
-/

namespace ValuedGraph

/-- **An addition and its rounding error.** The operand of larger size goes first, so the
error is exact: the two results add up to the two operands. -/
def twoSum (x y : Float) : Float × Float :=
  let (x, y) := if x.abs < y.abs then (y, x) else (x, y)
  let high := x + y
  (high, y - (high - x))

/-- Adds a number to the parts of a sum, smallest part first. The result is the errors that
are left, smallest first, and the leading part. -/
def absorb : Float → List Float → List Float × Float
  | x, [] => ([], x)
  | x, y :: parts =>
    let (high, low) := twoSum x y
    let (rest, top) := absorb high parts
    (if low != 0.0 then low :: rest else rest, top)

/-- The state of an exact sum. -/
structure ExactSum where
  /-- parts that do not overlap, smallest first -/
  parts : List Float
  /-- the sum of the items that are infinite or NaN -/
  special : Float
  /-- the sum of the items that are infinite -/
  infinite : Float

namespace ExactSum

def start : ExactSum := ⟨[], 0.0, 0.0⟩

/-- Adds one item. -/
def add (s : ExactSum) (item : Float) : Except NumericFault ExactSum :=
  let (low, top) := absorb item s.parts
  if top == 0.0 then .ok { s with parts := low }
  else if top.isFinite then .ok { s with parts := low ++ [top] }
  else if item.isFinite then .error .sumOverflow
  else
    .ok ⟨[], s.special + item, if item.isInf then s.infinite + item else s.infinite⟩

/-- Adds parts, largest first, until an addition is inexact: the sum so far, the error of
the last addition and the parts that were not added. -/
def collapse : Float → List Float → Float × Float × List Float
  | high, [] => (high, 0.0, [])
  | high, y :: parts =>
    let sum := high + y
    let low := y - (sum - high)
    if low != 0.0 then (sum, low, parts) else collapse sum parts

/-- **Rounds the exact sum once.** If the error of the last addition lies on the side of the
remaining parts, the sum was rounded the wrong way in a tie and moves on. -/
def round (s : ExactSum) : Float :=
  match s.parts.reverse with
  | [] => 0.0
  | top :: parts =>
    let (high, low, rest) := collapse top parts
    match rest with
    | [] => high
    | next :: _ =>
      if (low < 0.0 && next < 0.0) || (0.0 < low && 0.0 < next) then
        let twice := low * 2.0
        let moved := high + twice
        if twice == moved - high then moved else high
      else high

/-- The sum, or why there is none. -/
def finish (s : ExactSum) : Except NumericFault Float :=
  if s.special == 0.0 then .ok s.round
  else if s.infinite.isNaN then .error .opposingInfinities
  else .ok s.special

end ExactSum

/-- **The exact sum, rounded once.** -/
def exactSum (xs : List Float) : Except NumericFault Float :=
  xs.foldlM ExactSum.add .start >>= ExactSum.finish

/-- One step of a compensated sum: the total and the error carried along. -/
def compensate (state : Float × Float) (x : Float) : Float × Float :=
  let (total, carry) := state
  let next := total + x
  let error := if x.abs ≤ total.abs then total - next + x else x - next + total
  (next, carry + error)

/-- **A sum that adds its rounding errors at the end,** if they are finite. -/
def compensatedSum (xs : List Float) : Float :=
  let (total, carry) := xs.foldl compensate (0.0, 0.0)
  if carry != 0.0 && carry.isFinite then total + carry else total

end ValuedGraph
