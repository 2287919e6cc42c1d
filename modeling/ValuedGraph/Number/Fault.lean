/-!
# Numeric faults

The ways in which arithmetic on doubles and integers has no answer. They are kept
apart from the mistakes of an author, because no check of a definition rules them out.
-/

namespace ValuedGraph

/-- **Why a numeric operation has no result.** -/
inductive NumericFault where
  /-- an integer is beyond the largest double -/
  | integerTooLarge
  /-- a quotient of integers is beyond the largest double -/
  | quotientTooLarge
  /-- an integer has too many digits to be written in a message -/
  | unwritableInteger
  /-- an infinity was to become an integer -/
  | infinityToInteger
  /-- a NaN was to become an integer -/
  | nanToInteger
  /-- an exact sum left the range of doubles -/
  | sumOverflow
  /-- an exact sum met infinities of both signs -/
  | opposingInfinities
  /-- an average was taken of nothing -/
  | emptyAverage
  deriving DecidableEq, Repr

namespace NumericFault

/-- The wording of a fault. -/
def message : NumericFault → String
  | integerTooLarge => "int too large to convert to float"
  | quotientTooLarge => "integer division result too large for a float"
  | unwritableInteger =>
    "Exceeds the limit (4300 digits) for integer string conversion; " ++
      "use sys.set_int_max_str_digits() to increase the limit"
  | infinityToInteger => "cannot convert float infinity to integer"
  | nanToInteger => "cannot convert float NaN to integer"
  | sumOverflow => "intermediate overflow in fsum"
  | opposingInfinities => "-inf + inf in fsum"
  | emptyAverage => "division by zero"

/-- **Faults of a value,** as opposed to faults of range: the operand itself is not one
the operation is defined on. -/
def ofValue : NumericFault → Bool
  | nanToInteger | opposingInfinities | unwritableInteger => true
  | _ => false

end NumericFault

end ValuedGraph
