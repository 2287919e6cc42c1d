import ValuedGraph.Number.Binary64

/-!
# Reserved numbers and names

Expressions only produce numbers, so truth values and the absence of a value are encoded as
numbers, and a few names have a fixed meaning.
-/

namespace ValuedGraph

/-- The id of the root. No node may have it. -/
def rootId : String := ""

/-- What a root without a name of its own is called. -/
def rootDisplayName : String := "(root)"

/-- The name of the scenario without overrides. -/
def defaultScenario : String := ""

/-- The number of a truth value. -/
def truth (b : Bool) : Float := if b then 1.0 else 0.0

/-- **Every number but zero is true,** NaN included. -/
def isTrue (x : Float) : Bool := x != 0.0

/-- The number that stands for the absence of a value: far below every sensible value, yet
small enough to be an exact integer. -/
def nullNumber : Float := -9007199254740984.0

/-- The property name that stands for the property in whose definition it occurs. -/
def selfProperty : String := "."

/-- The constant that tells implied edges from authored ones. -/
def impliedConstant : String := "implied"

/-- The names of edge fields that no constant may have, in order. -/
def reservedFields : List String := ["implied", "ref", "source", "type"]

/-- Among names, the reserved ones, in order. -/
def reservedAmong (names : List String) : List String :=
  reservedFields.filter fun r => names.contains r

end ValuedGraph
