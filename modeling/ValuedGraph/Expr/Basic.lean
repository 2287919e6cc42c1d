import ValuedGraph.Combiner

/-!
# Expressions

An expression computes an array of numbers from the edges of a node and their surroundings.
This file has the type, its closed vocabularies, and the queries that need no evaluation.

* `Expr.children`: the direct sub-expressions.
* `Expr.walk`: all sub-expressions, parents first, by a stack.
* `Expr.capability`: the part of the surroundings an expression itself reads.
* `Expr.dependencies`: the properties of the same node an expression reads.
* `Expr.rename`: an expression with one property renamed.
-/

namespace ValuedGraph

/-- **Parts of the surroundings** that an expression may read. -/
inductive Capability where
  | edgeConstant | parentValue | rootValue | resultValue | input | tagHas | tagConstant
  deriving DecidableEq, Repr

instance : Vocabulary Capability where
  all := [.edgeConstant, .parentValue, .rootValue, .resultValue, .input, .tagHas, .tagConstant]
  word
    | .edgeConstant => "edge-constant" | .parentValue => "parent-value"
    | .rootValue => "root-value" | .resultValue => "result-value" | .input => "input"
    | .tagHas => "tag-has" | .tagConstant => "tag-constant"
  name
    | .edgeConstant => "EDGE_CONSTANT" | .parentValue => "PARENT_VALUE"
    | .rootValue => "ROOT_VALUE" | .resultValue => "RESULT_VALUE" | .input => "INPUT"
    | .tagHas => "TAG_HAS" | .tagConstant => "TAG_CONSTANT"
  about
    | .edgeConstant => "Reads constants off the edges being evaluated"
    | .parentValue => "Reads computed values of the edges' refs"
    | .rootValue => "Reads the root node's values"
    | .resultValue => "Reads already computed values of the same node"
    | .input => "Reads the input array supplied by the caller"
    | .tagHas => "Tests tag membership"
    | .tagConstant => "Reads constants declared on tags"

/-- The operators between two arrays. -/
inductive BinaryOperator where
  | add | subtract | multiply | divide | and | or
  deriving DecidableEq, Repr

instance : Vocabulary BinaryOperator where
  all := [.add, .subtract, .multiply, .divide, .and, .or]
  word
    | .add => "+" | .subtract => "-" | .multiply => "*" | .divide => "/" | .and => "&&"
    | .or => "||"
  name
    | .add => "ADD" | .subtract => "SUBTRACT" | .multiply => "MULTIPLY" | .divide => "DIVIDE"
    | .and => "AND" | .or => "OR"
  about
    | .add => "a plus b"
    | .subtract => "a minus b"
    | .multiply => "a times b"
    | .divide => "a divided by b"
    | .and => "true if both a and b are true"
    | .or => "true if either a or b is true"

/-- The operators on one array. -/
inductive UnaryOperator where
  | not | abs | negate | log | log10 | exp | sqrt | round | floor | ceil
  deriving DecidableEq, Repr

instance : Vocabulary UnaryOperator where
  all := [.not, .abs, .negate, .log, .log10, .exp, .sqrt, .round, .floor, .ceil]
  word
    | .not => "!" | .abs => "abs" | .negate => "negate" | .log => "log" | .log10 => "log10"
    | .exp => "exp" | .sqrt => "sqrt" | .round => "round" | .floor => "floor" | .ceil => "ceil"
  name
    | .not => "NOT" | .abs => "ABS" | .negate => "NEGATE" | .log => "LOG" | .log10 => "LOG10"
    | .exp => "EXP" | .sqrt => "SQRT" | .round => "ROUND" | .floor => "FLOOR" | .ceil => "CEIL"
  about
    | .not => "true if a is false"
    | .abs => "absolute value"
    | .negate => "minus a"
    | .log => "natural logarithm"
    | .log10 => "base 10 logarithm"
    | .exp => "e to the power a"
    | .sqrt => "square root"
    | .round => "nearest integer"
    | .floor => "largest integer not above a"
    | .ceil => "smallest integer not below a"

/-- The comparisons between two arrays. -/
inductive Comparator where
  | equal | notEqual | less | greater | lessEqual | greaterEqual
  deriving DecidableEq, Repr

instance : Vocabulary Comparator where
  all := [.equal, .notEqual, .less, .greater, .lessEqual, .greaterEqual]
  word
    | .equal => "==" | .notEqual => "!=" | .less => "<" | .greater => ">" | .lessEqual => "<="
    | .greaterEqual => ">="
  name
    | .equal => "EQUAL" | .notEqual => "NOT_EQUAL" | .less => "LESS" | .greater => "GREATER"
    | .lessEqual => "LESS_EQUAL" | .greaterEqual => "GREATER_EQUAL"
  about _ := ""

/-- Which of a node's tags count. -/
inductive TagScope where
  | all | self | extended
  deriving DecidableEq, Repr

instance : Vocabulary TagScope where
  all := [.all, .self, .extended]
  word
    | .all => "all" | .self => "self" | .extended => "extended"
  name
    | .all => "ALL" | .self => "SELF" | .extended => "EXTENDED"
  about
    | .all => "The node's own tags plus extended ones"
    | .self => "Only tags set directly on the node"
    | .extended => "Only tags inherited from refs"

/-- What the length of an array is taken from. -/
inductive LengthMode where
  | refs | edges | input
  deriving DecidableEq, Repr

instance : Vocabulary LengthMode where
  all := [.refs, .edges, .input]
  word
    | .refs => "refs" | .edges => "edges" | .input => "input"
  name
    | .refs => "REFS" | .edges => "EDGES" | .input => "INPUT"
  about
    | .refs => "One slot per ref"
    | .edges => "One slot per edge"
    | .input => "One slot per input value"

/-- **An expression.** Every form evaluates to an array of numbers. -/
inductive Expr where
  /-- a fixed array -/
  | literal (values : List Float)
  /-- the array supplied by the caller -/
  | input
  /-- a constant of each edge -/
  | edgeConstant (name : String)
  /-- a value of each edge's ref -/
  | parentValue (property : String)
  /-- a value of the root -/
  | rootValue (property : String)
  /-- a value of the same node -/
  | resultValue (property : String)
  /-- an array reduced to one number -/
  | combine (combiner : Combiner) (value : Expr)
  /-- a color written out -/
  | colorLiteral (text : String) (packed : Float)
  /-- colors from their channels -/
  | colorRGB (red green blue : Expr) (alpha : Option Expr)
  /-- colors between two colors -/
  | gradient (progress start stop : Expr)
  | arithmetic (operator : BinaryOperator) (a b : Expr)
  | unary (operator : UnaryOperator) (a : Expr)
  | compare (comparator : Comparator) (a b : Expr)
  /-- a choice for each value of a condition -/
  | choose (condition yes no : Expr)
  /-- the values at which a condition holds -/
  | filter (condition value : Expr) (default : Option Expr)
  /-- values brought between bounds -/
  | clip (value : Expr) (low high : Option Expr)
  /-- the bounds mapped onto `0..1` -/
  | rangeNormalize (value low high : Expr)
  /-- `0..1` mapped onto the bounds -/
  | percentDenormalize (value low high : Expr)
  /-- arrays one after the other -/
  | collect (items : List Expr)
  /-- an array repeated to a length -/
  | lengthOf (mode : LengthMode) (value : Expr)
  /-- whether the node has a tag -/
  | hasTag (tag : String) (scope : TagScope)
  /-- a constant of each of the node's tags -/
  | tagConstant (name : String) (scope : TagScope) (default : Option Expr)
  /-- a value bound to a name in a block -/
  | bind (name : String) (value block : Expr)
  /-- a bound value -/
  | var (name : String)
  /-- a value that is also logged -/
  | log (value : Expr) (label : String)
  deriving Inhabited

namespace Expr

/-- **The direct sub-expressions,** in the order of the form's fields. -/
def children : Expr → List Expr
  | literal _ | input | edgeConstant _ | parentValue _ | rootValue _ | resultValue _ => []
  | colorLiteral _ _ | hasTag _ _ | var _ => []
  | combine _ value | lengthOf _ value | log value _ => [value]
  | colorRGB red green blue alpha => [red, green, blue] ++ alpha.toList
  | gradient progress start stop => [progress, start, stop]
  | arithmetic _ a b | compare _ a b => [a, b]
  | unary _ a => [a]
  | choose condition yes no => [condition, yes, no]
  | filter condition value default => [condition, value] ++ default.toList
  | clip value low high => [value] ++ low.toList ++ high.toList
  | rangeNormalize value low high | percentDenormalize value low high => [value, low, high]
  | collect items => items
  | tagConstant _ _ default => default.toList
  | bind _ value block => [value, block]

mutual
/-- The number of sub-expressions, the expression itself included. -/
def size : Expr → Nat
  | literal _ | input | edgeConstant _ | parentValue _ | rootValue _ | resultValue _ => 1
  | colorLiteral _ _ | hasTag _ _ | var _ => 1
  | combine _ value | lengthOf _ value | log value _ => size value + 1
  | colorRGB red green blue alpha => size red + size green + size blue + sizeOption alpha + 1
  | gradient progress start stop => size progress + size start + size stop + 1
  | arithmetic _ a b | compare _ a b => size a + size b + 1
  | unary _ a => size a + 1
  | choose condition yes no => size condition + size yes + size no + 1
  | filter condition value default => size condition + size value + sizeOption default + 1
  | clip value low high => size value + sizeOption low + sizeOption high + 1
  | rangeNormalize value low high => size value + size low + size high + 1
  | percentDenormalize value low high => size value + size low + size high + 1
  | collect items => sizeList items + 1
  | tagConstant _ _ default => sizeOption default + 1
  | bind _ value block => size value + size block + 1

/-- The number of sub-expressions of an optional expression. -/
def sizeOption : Option Expr → Nat
  | none => 0
  | some e => size e

/-- The number of sub-expressions of a list of expressions. -/
def sizeList : List Expr → Nat
  | [] => 0
  | e :: rest => size e + sizeList rest
end

/-- Takes expressions off a stack and puts their children in their place. Each step takes one,
so the fuel is the number of expressions to come. -/
def unstack : Nat → List Expr → List Expr
  | 0, _ => []
  | _, [] => []
  | fuel + 1, e :: stack => e :: unstack fuel (e.children ++ stack)

/-- **An expression and all below it,** parents before children, from left to right. -/
def walk (e : Expr) : List Expr := unstack e.size [e]

/-- **The part of the surroundings** that an expression itself reads, its children apart. -/
def capability : Expr → Option Capability
  | edgeConstant _ => some .edgeConstant
  | parentValue _ => some .parentValue
  | rootValue _ => some .rootValue
  | resultValue _ => some .resultValue
  | input => some .input
  | hasTag _ _ => some .tagHas
  | tagConstant _ _ _ => some .tagConstant
  | lengthOf .edges _ => some .edgeConstant
  | lengthOf .refs _ => some .parentValue
  | lengthOf .input _ => some .input
  | _ => none

/-- The property that a result reference names. -/
def resultName? : Expr → Option String
  | resultValue property => some property
  | _ => none

/-- **The properties of the same node that an expression reads,** each once, in the order of
the walk. -/
def dependencies (e : Expr) : List String := (e.walk.filterMap resultName?).eraseDups

/-- Whether an expression reads the array supplied by the caller. -/
def readsInput (e : Expr) : Bool := e.walk.any fun s => s.capability == some .input

mutual
/-- **An expression with one property renamed,** in references to refs, to the root and to
results. -/
def rename (old new : String) : Expr → Expr
  | parentValue p => parentValue (if p = old then new else p)
  | rootValue p => rootValue (if p = old then new else p)
  | resultValue p => resultValue (if p = old then new else p)
  | literal values => literal values
  | input => input
  | edgeConstant name => edgeConstant name
  | colorLiteral text packed => colorLiteral text packed
  | hasTag tag scope => hasTag tag scope
  | var name => var name
  | combine c value => combine c (rename old new value)
  | lengthOf mode value => lengthOf mode (rename old new value)
  | log value label => log (rename old new value) label
  | colorRGB red green blue alpha =>
    colorRGB (rename old new red) (rename old new green) (rename old new blue)
      (renameOption old new alpha)
  | gradient progress start stop =>
    gradient (rename old new progress) (rename old new start) (rename old new stop)
  | arithmetic op a b => arithmetic op (rename old new a) (rename old new b)
  | compare c a b => compare c (rename old new a) (rename old new b)
  | unary op a => unary op (rename old new a)
  | choose condition yes no =>
    choose (rename old new condition) (rename old new yes) (rename old new no)
  | filter condition value default =>
    filter (rename old new condition) (rename old new value) (renameOption old new default)
  | clip value low high =>
    clip (rename old new value) (renameOption old new low) (renameOption old new high)
  | rangeNormalize value low high =>
    rangeNormalize (rename old new value) (rename old new low) (rename old new high)
  | percentDenormalize value low high =>
    percentDenormalize (rename old new value) (rename old new low) (rename old new high)
  | collect items => collect (renameList old new items)
  | tagConstant name scope default => tagConstant name scope (renameOption old new default)
  | bind name value block => bind name (rename old new value) (rename old new block)

/-- An optional expression with one property renamed. -/
def renameOption (old new : String) : Option Expr → Option Expr
  | none => none
  | some e => some (rename old new e)

/-- A list of expressions with one property renamed. -/
def renameList (old new : String) : List Expr → List Expr
  | [] => []
  | e :: rest => rename old new e :: renameList old new rest
end

end Expr

end ValuedGraph
