import ValuedGraph.Expr.Surroundings
import ValuedGraph.Trace

/-!
# Evaluation of expressions

Every expression evaluates to an array, one number for each edge, ref or input in front of it.
Where arrays meet, the shorter one starts over again, so an array of one number acts as that
number. An array that is needed must not be empty.

* `slot`: a position of an array that starts over again.
* `Expr.eval`: the array of an expression, sub-expressions from left to right.
* `Expr.evaluate`: the array of a whole expression, which must not be empty.
-/

namespace ValuedGraph

/-- **Something an expression reads that is not there.** -/
inductive Missing where
  | edgeConstant (name : String)
  | refProperty (name : String)
  | rootProperty (name : String)
  | resultProperty (name : String)
  | input
  /-- an input whose length is asked for -/
  | inputLength
  | tag (name : String)
  | unbound (name : String)
  deriving DecidableEq, Repr

/-- The wording of what is missing. -/
def Missing.message : Missing → String
  | edgeConstant name => s!"edge constant '{name}' has no value"
  | refProperty name => s!"ref property '{name}' has no value"
  | rootProperty name => s!"root property '{name}' has no value"
  | resultProperty name => s!"result property '{name}' has no value"
  | input => "'input' used but no input is available"
  | inputLength => "lengthOf 'input' used but no input is available"
  | tag name => s!"tag '{name}' is not defined"
  | unbound name => s!"variable '{name}' is not bound"

/-- **The parts of expressions** that need at least one number. -/
inductive Operand where
  | left (operator : BinaryOperator)
  | right (operator : BinaryOperator)
  | leftCompared (comparator : Comparator)
  | rightCompared (comparator : Comparator)
  | only (operator : UnaryOperator)
  | red | green | blue | alpha
  | progress | startColor | endColor
  | condition | yes | no
  | filterFlags
  | clipLow | clipHigh
  | rangeLow | rangeHigh
  | percentLow | percentHigh
  | repeated
  | whole
  deriving DecidableEq, Repr

/-- What messages call an operand. -/
def Operand.name : Operand → String
  | left op => s!"left operand of operator '{Vocabulary.word op}'"
  | right op => s!"right operand of operator '{Vocabulary.word op}'"
  | leftCompared c => s!"left operand of comparison '{Vocabulary.word c}'"
  | rightCompared c => s!"right operand of comparison '{Vocabulary.word c}'"
  | only op => s!"operand of '{Vocabulary.word op}'"
  | red => "rgb red"
  | green => "rgb green"
  | blue => "rgb blue"
  | alpha => "rgb alpha"
  | progress => "gradient progress"
  | startColor => "gradient start color"
  | endColor => "gradient end color"
  | condition => "if condition"
  | yes => "if then"
  | no => "if else"
  | filterFlags => "filter"
  | clipLow => "clip low"
  | clipHigh => "clip high"
  | rangeLow => "range low"
  | rangeHigh => "range high"
  | percentLow => "percent low"
  | percentHigh => "percent high"
  | repeated => "lengthOf value"
  | whole => "expression"

/-- **Why an evaluation has no array.** -/
inductive EvalFailure where
  | missing (what : Missing)
  | empty (operand : Operand)
  | numeric (fault : NumericFault)
  deriving DecidableEq, Repr

/-- The wording of a failure. -/
def EvalFailure.message : EvalFailure → String
  | missing what => what.message
  | empty operand =>
    s!"{operand.name} evaluated to an empty array but at least one value is required"
  | numeric fault => fault.message

/-- A traced evaluation. -/
abbrev Eval (α : Type) := Traced EvalFailure α

namespace Eval

/-- The value of a lookup, or the failure that it is missing. -/
def found {α : Type} (value : Option α) (what : Missing) : Eval α :=
  match value with
  | some a => pure a
  | none => Traced.fail (.missing what)

/-- Demands that an array is not empty. -/
def need (operand : Operand) (values : List Float) : Eval (List Float) :=
  if values.isEmpty then Traced.fail (.empty operand) else pure values

/-- The value of arithmetic that may have none. -/
def numeric {α : Type} (r : Except NumericFault α) : Eval α :=
  Traced.ofExcept (r.mapError .numeric)

theorem numeric_ok {α : Type} {r : Except NumericFault α} {a : α} :
    (numeric r).result = .ok a ↔ r = .ok a := by
  cases r with
  | ok b =>
    constructor
    · intro hb
      rw [Except.ok.inj hb]
    · intro hb
      cases hb
      rfl
  | error fault => exact ⟨nofun, nofun⟩

/-- Arithmetic only fails as arithmetic. -/
theorem numeric_error {α : Type} {r : Except NumericFault α} {failure : EvalFailure}
    (h : (numeric r).result = .error failure) : ∃ fault, failure = .numeric fault := by
  cases r with
  | ok a => cases h
  | error fault => exact ⟨fault, (Except.error.inj h).symm⟩

/-- The number of a name in every table of a list. -/
def column (tables : List (Table Float)) (name : String) (what : Missing) : Eval (List Float) :=
  tables.mapM fun t => found (t.get? name) what

end Eval

/-- **A position of an array** that starts over again behind its end. -/
def slot (values : List Float) (i : Nat) : Float := values.getD (i % values.length) 0.0

/-- Two arrays combined position by position, as many as the longer one has. -/
def zipSlots (f : Float → Float → Float) (a b : List Float) : List Float :=
  (List.range (max a.length b.length)).map fun i => f (slot a i) (slot b i)

/-- An operator between two numbers. Division by zero gives an infinity or NaN. -/
def BinaryOperator.apply : BinaryOperator → Float → Float → Float
  | add, a, b => a + b
  | subtract, a, b => a - b
  | multiply, a, b => a * b
  | divide, a, b => a / b
  | and, a, b => truth (isTrue a && isTrue b)
  | or, a, b => truth (isTrue a || isTrue b)

/-- A logarithm, with its limit at zero and NaN below. -/
def extendLog (log : Float → Float) (a : Float) : Float :=
  if 0.0 < a then log a else if a == 0.0 then -infinity else nan

/-- An operator on one number. -/
def UnaryOperator.apply : UnaryOperator → Float → Float
  | not, a => truth (!isTrue a)
  | abs, a => a.abs
  | negate, a => -a
  | log, a => extendLog Float.log a
  | log10, a => extendLog Float.log10 a
  | exp, a => a.exp
  | sqrt, a => if 0.0 ≤ a then a.sqrt else nan
  | round, a => toIntegral .nearest a
  | floor, a => toIntegral .down a
  | ceil, a => toIntegral .up a

/-- Whether a comparison holds. A NaN is only ever unequal. -/
def Comparator.holds : Comparator → Float → Float → Bool
  | equal, a, b => a == b
  | notEqual, a, b => a != b
  | less, a, b => a < b
  | greater, a, b => b < a
  | lessEqual, a, b => a ≤ b
  | greaterEqual, a, b => b ≤ a

/-- A number brought between two bounds; the low one wins. -/
def clipNumber (low high x : Float) : Float := greater low (smaller high x)

/-- The bounds at a position, the smaller one first. -/
def boundsAt (low high : List Float) (i : Nat) : Float × Float :=
  if slot high i < slot low i then (slot high i, slot low i) else (slot low i, slot high i)

/-- The part of the way between two bounds that a number has gone. -/
def normalizeBetween (bounds : Float × Float) (x : Float) : Float :=
  if bounds.2 == bounds.1 then 0.0 else (x - bounds.1) / (bounds.2 - bounds.1)

/-- The number that has gone a part of the way between two bounds. -/
def denormalizeBetween (bounds : Float × Float) (x : Float) : Float :=
  bounds.1 + x * (bounds.2 - bounds.1)

/-- Every number of an array changed by its position. -/
def mapSlots (f : Nat → Float → Float) (values : List Float) : List Float :=
  values.zipIdx.map fun (x, i) => f i x

/-- The numbers at the positions where a condition holds. -/
def keepSlots (flags values : List Float) : List Float :=
  (values.zipIdx.filter fun (_, i) => isTrue (slot flags i)).map Prod.fst

/-- The colors of four arrays of channels, packed. -/
def packChannels (r g b a : List Float) : Except NumericFault (List Float) :=
  (List.range (max (max r.length g.length) (max b.length a.length))).mapM fun i => do
    (← Color.make (slot r i) (slot g i) (slot b i) (slot a i)).pack

/-- The colors between two arrays of colors, packed. -/
def packGradient (p s e : List Float) : Except NumericFault (List Float) :=
  (List.range (max (max p.length s.length) e.length)).mapM fun i => do
    (← Color.interpolate (Color.unpack (slot s i)) (Color.unpack (slot e i)) (slot p i)).pack

namespace Surroundings

/-- The number of positions that a mode asks for. -/
def count (s : Surroundings) : LengthMode → Eval Nat
  | .refs => pure s.refs.length
  | .edges => pure s.edges.length
  | .input => return (← Eval.found s.input .inputLength).length

/-- Whether the node has a tag, which must be one of the definition's. -/
def hasTag (s : Surroundings) (tag : String) (scope : TagScope) : Eval Float := do
  let _ ← Eval.found (s.tagConstants.get? tag) (.tag tag)
  return truth ((s.tags.inScope scope).contains tag)

/-- A constant of the node's tags, in the order in which the tags are declared. -/
def tagColumn (s : Surroundings) (name : String) (scope : TagScope) : List Float :=
  s.tagConstants.entries.filterMap fun (tag, constants) =>
    if (s.tags.inScope scope).contains tag then constants.get? name else none

end Surroundings

namespace Expr

mutual
/-- **The array of an expression.** Sub-expressions are evaluated from left to right, bounds
before the values between them, and a default only where it is needed. -/
def eval : Expr → Surroundings → Eval (List Float)
  | literal values, _ => pure values
  | input, s => Eval.found s.input .input
  | edgeConstant name, s => Eval.column s.edges name (.edgeConstant name)
  | parentValue name, s => Eval.column s.refs name (.refProperty name)
  | rootValue name, s => return [← Eval.found (s.root.get? name) (.rootProperty name)]
  | resultValue name, s => return [← Eval.found (s.results.get? name) (.resultProperty name)]
  | combine c value, s => do
    let xs ← eval value s
    return [← Eval.numeric (c.apply xs)]
  | colorLiteral _ packed, _ => pure [packed]
  | colorRGB red green blue alpha, s => do
    let r ← Eval.need .red (← eval red s)
    let g ← Eval.need .green (← eval green s)
    let b ← Eval.need .blue (← eval blue s)
    let a ← Eval.need .alpha (← evalOption alpha [1.0] s)
    Eval.numeric (packChannels r g b a)
  | gradient progress start stop, s => do
    let p ← Eval.need .progress (← eval progress s)
    let a ← Eval.need .startColor (← eval start s)
    let b ← Eval.need .endColor (← eval stop s)
    Eval.numeric (packGradient p a b)
  | arithmetic op a b, s => do
    let xs ← eval a s
    let ys ← eval b s
    return zipSlots op.apply (← Eval.need (.left op) xs) (← Eval.need (.right op) ys)
  | unary op a, s => do
    return (← Eval.need (.only op) (← eval a s)).map op.apply
  | compare c a b, s => do
    let xs ← eval a s
    let ys ← eval b s
    return zipSlots (fun x y => truth (c.holds x y))
      (← Eval.need (.leftCompared c) xs) (← Eval.need (.rightCompared c) ys)
  | choose condition yes no, s => do
    let flags ← Eval.need .condition (← eval condition s)
    let xs ← Eval.need .yes (← eval yes s)
    let ys ← Eval.need .no (← eval no s)
    return mapSlots (fun i flag => if isTrue flag then slot xs i else slot ys i) flags
  | filter condition value default, s => do
    let flags ← Eval.need .filterFlags (← eval condition s)
    let kept := keepSlots flags (← eval value s)
    if kept.isEmpty then evalOption default [nullNumber] s else return kept
  | clip value low high, s => do
    let lows ← Eval.need .clipLow (← evalOption low [-infinity] s)
    let highs ← Eval.need .clipHigh (← evalOption high [infinity] s)
    return mapSlots (fun i x => clipNumber (slot lows i) (slot highs i) x) (← eval value s)
  | rangeNormalize value low high, s => do
    let lows ← Eval.need .rangeLow (← eval low s)
    let highs ← Eval.need .rangeHigh (← eval high s)
    return mapSlots (fun i x => normalizeBetween (boundsAt lows highs i) x) (← eval value s)
  | percentDenormalize value low high, s => do
    let lows ← Eval.need .percentLow (← eval low s)
    let highs ← Eval.need .percentHigh (← eval high s)
    return mapSlots (fun i x => denormalizeBetween (boundsAt lows highs i) x) (← eval value s)
  | collect items, s => evalList items s
  | lengthOf mode value, s => do
    let n ← s.count mode
    let xs ← Eval.need .repeated (← eval value s)
    return (List.range n).map (slot xs)
  | hasTag tag scope, s => return [← s.hasTag tag scope]
  | tagConstant name scope default, s =>
    let found := s.tagColumn name scope
    if found.isEmpty then evalOption default [] s else pure found
  | bind name value block, s => do
    let xs ← eval value s
    eval block (s.bind name xs)
  | var name, s => Eval.found (s.bindings.get? name) (.unbound name)
  | log value label, s => do
    let xs ← eval value s
    Traced.tell ⟨label, xs⟩
    return xs

/-- The array of an optional expression, or the one that stands for its absence. -/
def evalOption : Option Expr → List Float → Surroundings → Eval (List Float)
  | none, absent, _ => pure absent
  | some e, _, s => eval e s

/-- The arrays of a list of expressions, one after the other. -/
def evalList : List Expr → Surroundings → Eval (List Float)
  | [], _ => pure []
  | e :: rest, s => do
    let xs ← eval e s
    let ys ← evalList rest s
    return xs ++ ys
end

/-- **The array of a whole expression,** which is not empty. -/
def evaluate (e : Expr) (s : Surroundings) : Eval (List Float) := do
  Eval.need .whole (← eval e s)

end Expr

end ValuedGraph
