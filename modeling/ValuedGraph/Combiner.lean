import ValuedGraph.Color
import ValuedGraph.Constants
import ValuedGraph.Vocabulary

/-!
# Combiners

A combiner reduces the values of several edges to the one value of a node. Every combiner
answers the empty list too: with opaque black for the average of colors, else with zero.

* `Combiner.apply`: the reduction.
* `Combiner.apply_nil`: the answer to the empty list.
-/

namespace ValuedGraph

/-- **The reductions a definition may name.** -/
inductive Combiner where
  | mean | first | last | min | max | sum | product | and | or | colorMean
  deriving DecidableEq, Repr, Inhabited

namespace Combiner

instance : Vocabulary Combiner where
  all := [mean, first, last, min, max, sum, product, and, or, colorMean]
  word
    | mean => "mean" | first => "first" | last => "last" | min => "min" | max => "max"
    | sum => "sum" | product => "product" | and => "and" | or => "or"
    | colorMean => "color-mean"
  name
    | mean => "MEAN" | first => "FIRST" | last => "LAST" | min => "MIN" | max => "MAX"
    | sum => "SUM" | product => "PRODUCT" | and => "AND" | or => "OR"
    | colorMean => "COLOR_MEAN"
  about
    | mean => "Arithmetic mean (the default)"
    | first => "The first value"
    | last => "The last value"
    | min => "The smallest value"
    | max => "The largest value"
    | sum => "The sum of all values"
    | product => "The product of all values"
    | and => "True if every value is true"
    | or => "True if any value is true"
    | colorMean => "Channel-wise average of packed colors"

/-- The combiner of a property that names none. -/
def default : Combiner := mean

/-- The average of packed colors, packed again. -/
def mixPacked (xs : List Float) : Except NumericFault Float := do
  (← Color.mix (xs.map Color.unpack)).pack

/-- **The reduction of a list of numbers.** Only exact sums and averages of colors may fail. -/
def apply (c : Combiner) : List Float → Except NumericFault Float
  | [] =>
    match c with
    | colorMean => Color.black.pack
    | _ => .ok 0.0
  | x :: xs =>
    match c with
    | mean => (exactSum (x :: xs)).map fun s => s / Float.ofNat (xs.length + 1)
    | first => .ok x
    | last => .ok (xs.getLastD x)
    | min => .ok (xs.foldl smaller x)
    | max => .ok (xs.foldl greater x)
    | sum => exactSum (x :: xs)
    | product => .ok (xs.foldl (· * ·) x)
    | and => .ok (truth ((x :: xs).all isTrue))
    | or => .ok (truth ((x :: xs).any isTrue))
    | colorMean => mixPacked (x :: xs)

/-- **Nothing combines to zero,** except for colors. -/
theorem apply_nil {c : Combiner} (h : c ≠ colorMean) : c.apply [] = .ok 0.0 := by
  cases c <;> simp_all [apply]

end Combiner

end ValuedGraph
