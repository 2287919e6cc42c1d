import ValuedGraph.Expr.Basic

/-!
# Reading expressions

Authors write expressions as documents. Numbers, booleans, null and lists of them are fixed
arrays, the text `input` is the array supplied by the caller, and every other form is an
object with exactly one *marker*, a field whose name says which form it is. An object without
a marker, with two of them, or with a field that its form does not take is refused.

* `Value.leafNumber`: the number of a value that is one.
* `Value.reading`: how a value reads as an expression.
* `Expr.parse`: the expression of a value, or where and why it is malformed.
-/

namespace ValuedGraph

/-- Why a value is not an expression. -/
inductive SyntaxError where
  /-- a text other than the one that is an expression -/
  | strayText (text : String)
  | emptyArray
  /-- an item of an array that is not a number -/
  | badItem (item : Value) (index : Nat)
  /-- a value of a kind that is never an expression -/
  | notExpression (v : Value)
  | noMarker (keys : List String)
  | manyMarkers (markers : List String)
  | unexpectedKeys (marker : String) (keys : List String)
  | missingKey (key : String)
  /-- a field that should hold a name -/
  | notName (key : String) (v : Value)
  /-- a word that is not in its vocabulary -/
  | unknownWord (what : String) (v : Value) (choices : String)
  /-- an operator that is not a text -/
  | badOperator (v : Value)
  /-- an operator on one array that was given two -/
  | extraOperand (operator : String)
  | badColor (error : ColorError)
  | badChannels
  | badCollection
  | emptyCollection
  | noBounds
  | badLabel

/-- The wording of a syntax error. -/
def SyntaxError.message : SyntaxError → String
  | strayText text =>
    s!"the only string allowed as an expression is 'input', got {quoted text}"
  | emptyArray => "an array of numbers must have at least one item"
  | badItem item index =>
    s!"array items must be numbers, booleans or null, got {item.literal} at index {index}"
  | notExpression v => s!"not a legal expression: {v.literal}"
  | noMarker keys => s!"no recognized expression key among {quotedList keys}"
  | manyMarkers markers => s!"expression has more than one form marker: {quotedList markers}"
  | unexpectedKeys marker keys =>
    s!"unexpected keys for '{marker}' expression: {quotedList keys}"
  | missingKey key => s!"missing required key '{key}'"
  | notName key v => s!"'{key}' must be a non-empty string, got {v.literal}"
  | unknownWord what v choices =>
    if v.isWritable then s!"Unknown {what}: {v.literal} (expected one of {choices})"
    else NumericFault.unwritableInteger.message
  | badOperator v => s!"Unknown operator: {v.literal}"
  | extraOperand operator => s!"unary operator {quoted operator} does not take 'b'"
  | badColor error => error.message
  | badChannels => "'rgb' must be a list of three expressions"
  | badCollection => "'collect' must be a list of expressions"
  | emptyCollection => "'collect' must have at least one child"
  | noBounds => "'clip' requires at least one of 'low' or 'high'"
  | badLabel => "'label' must be a string"

/-- The value that the wording of a syntax error has to write. -/
def SyntaxError.value? : SyntaxError → Option Value
  | badItem v _ | notExpression v | notName _ v | badOperator v => some v
  | _ => none

/-- **Why reading an expression fails:** a mistake at a place of the document, or a number
beyond the range of doubles. -/
inductive ParseFailure where
  | malformed (path : String) (error : SyntaxError)
  | numeric (fault : NumericFault)

/-- **The number of a leaf.** Booleans and null have reserved numbers; NaN and everything with
parts is no leaf. -/
def Value.leafNumber : Value → Except NumericFault (Option Float)
  | .null => .ok (some nullNumber)
  | .bool b => .ok (some (truth b))
  | .int n => (ofInt n).map some
  | .float x => .ok (if x.isNaN then none else some x)
  | _ => .ok none

/-- A reader of one value, given the place where the value stands. -/
abbrev Reader := String → Except ParseFailure Expr

/-- **How a value reads:** as one expression, and, if it is a list, as one per item. -/
structure Reading where
  expression : Reader
  items : Option (List Reader)

/-- An object as the forms see it: its fields, and how each of them reads. -/
structure Form where
  fields : List (String × Value)
  readings : List (String × Reading)
  path : String

namespace Form

/-- Refuses the form. -/
def refuse {α : Type} (f : Form) (error : SyntaxError) : Except ParseFailure α :=
  .error (.malformed f.path error)

/-- Whether a field is present. -/
def has (f : Form) (key : String) : Bool := hasField f.fields key

/-- The value of a field. -/
def value (f : Form) (key : String) : Value := (f.fields.lookup key).getD .null

/-- The name that a field holds. -/
def name (f : Form) (key : String) : Except ParseFailure String :=
  match f.value key with
  | .text s => if s = "" then f.refuse (.notName key (.text s)) else .ok s
  | v => f.refuse (.notName key v)

/-- The member of a vocabulary that a field names. -/
def word (α : Type) [Vocabulary α] (f : Form) (key what : String) : Except ParseFailure α :=
  match Vocabulary.ofValue? (f.value key) with
  | some a => .ok a
  | none => f.refuse (.unknownWord what (f.value key) (Vocabulary.choices α))

/-- The expression of a field that may be absent. -/
def optional (f : Form) (key : String) : Except ParseFailure (Option Expr) :=
  match f.readings.lookup key with
  | some r => (r.expression (f.path ++ "." ++ key)).map some
  | none => .ok none

/-- The expression of a field that has to be there. -/
def required (f : Form) (key : String) : Except ParseFailure Expr :=
  match f.readings.lookup key with
  | some r => r.expression (f.path ++ "." ++ key)
  | none => f.refuse (.missingKey key)

/-- The expressions of the items of a field. -/
def each (f : Form) (key : String) (rs : List Reader) : Except ParseFailure (List Expr) :=
  rs.zipIdx.mapM fun (r, i) => r s!"{f.path}.{key}[{i}]"

/-- The scope of tags, all tags if it is not given. -/
def scope (f : Form) : Except ParseFailure TagScope :=
  if f.has "which" then f.word TagScope "which" "tag scope" else .ok .all

/-- The words of all operators, each quoted. -/
def operatorChoices : String :=
  Vocabulary.choices BinaryOperator ++ ", " ++ Vocabulary.choices UnaryOperator

def operator (f : Form) : Except ParseFailure Expr :=
  match f.value "operator" with
  | .text s =>
    match (Vocabulary.ofWord? s : Option UnaryOperator) with
    | some op => do
      if f.has "b" then f.refuse (.extraOperand s)
      return .unary op (← f.required "a")
    | none =>
      match (Vocabulary.ofWord? s : Option BinaryOperator) with
      | some op => do
        let a ← f.required "a"
        let b ← f.required "b"
        return .arithmetic op a b
      | none => f.refuse (.unknownWord "operator" (.text s) operatorChoices)
  | v => f.refuse (.badOperator v)

/-- A color written out. A number without a nearest integer is the author's mistake; one that
is infinite is out of range. -/
def color (f : Form) : Except ParseFailure Expr := do
  let text ← f.name "color"
  match Color.ofText text with
  | .ok c =>
    match c.pack with
    | .ok packed => return .colorLiteral text packed
    | .error fault => .error (.numeric fault)
  | .error (.numeric fault) =>
    if fault.ofValue then f.refuse (.badColor (.numeric fault)) else .error (.numeric fault)
  | .error error => f.refuse (.badColor error)

def channels (f : Form) : Except ParseFailure Expr :=
  match (f.readings.lookup "rgb").bind Reading.items with
  | some rs => do
    if rs.length ≠ 3 then f.refuse .badChannels
    match ← f.each "rgb" rs with
    | [red, green, blue] => return .colorRGB red green blue (← f.optional "alpha")
    | _ => f.refuse .badChannels
  | none => f.refuse .badChannels

def collection (f : Form) : Except ParseFailure Expr :=
  match (f.readings.lookup "collect").bind Reading.items with
  | some rs => do
    if rs.isEmpty then f.refuse .emptyCollection
    return .collect (← f.each "collect" rs)
  | none => f.refuse .badCollection

def clip (f : Form) : Except ParseFailure Expr := do
  if !f.has "low" && !f.has "high" then f.refuse .noBounds
  let value ← f.required "clip"
  let low ← f.optional "low"
  let high ← f.optional "high"
  return .clip value low high

/-- The label of a log, empty if it is not given. -/
def label (f : Form) : Except ParseFailure String :=
  if f.has "label" then
    match f.value "label" with
    | .text s => .ok s
    | _ => f.refuse .badLabel
  else .ok ""

/-- Three required fields. -/
def three (f : Form) (build : Expr → Expr → Expr → Expr) (a b c : String) :
    Except ParseFailure Expr := do
  let x ← f.required a
  let y ← f.required b
  let z ← f.required c
  return build x y z

end Form

/-- **The structured forms:** the marker, the other fields the form takes, and its reader. -/
def Expr.forms : List (String × List String × (Form → Except ParseFailure Expr)) :=
  [("constant", [], fun f => return .edgeConstant (← f.name "constant")),
   ("ref", [], fun f => return .parentValue (← f.name "ref")),
   ("root", [], fun f => return .rootValue (← f.name "root")),
   ("result", [], fun f => return .resultValue (← f.name "result")),
   ("combine", ["value"], fun f => do
      let c ← f.word Combiner "combine" "combiner"
      return .combine c (← f.required "value")),
   ("color", [], Form.color),
   ("rgb", ["alpha"], Form.channels),
   ("gradient", ["a", "b"], fun f => f.three .gradient "gradient" "a" "b"),
   ("operator", ["a", "b"], Form.operator),
   ("compare", ["a", "b"], fun f => do
      let c ← f.word Comparator "compare" "comparator"
      let a ← f.required "a"
      let b ← f.required "b"
      return .compare c a b),
   ("if", ["then", "else"], fun f => f.three .choose "if" "then" "else"),
   ("filter", ["value", "default"], fun f => do
      let condition ← f.required "filter"
      let value ← f.required "value"
      return .filter condition value (← f.optional "default")),
   ("clip", ["low", "high"], Form.clip),
   ("range", ["low", "high"], fun f => f.three .rangeNormalize "range" "low" "high"),
   ("percent", ["low", "high"], fun f => f.three .percentDenormalize "percent" "low" "high"),
   ("collect", [], Form.collection),
   ("lengthOf", ["value"], fun f => do
      let mode ← f.word LengthMode "lengthOf" "lengthOf mode"
      return .lengthOf mode (← f.required "value")),
   ("has", ["which"], fun f => do
      let tag ← f.name "has"
      return .hasTag tag (← f.scope)),
   ("tagConstant", ["which", "default"], fun f => do
      let name ← f.name "tagConstant"
      let scope ← f.scope
      return .tagConstant name scope (← f.optional "default")),
   ("let", ["value", "block"], fun f => do
      let name ← f.name "let"
      let value ← f.required "value"
      return .bind name value (← f.required "block")),
   ("variable", [], fun f => return .var (← f.name "variable")),
   ("log", ["label"], fun f => do
      let label ← f.label
      return .log (← f.required "log") label)]

/-- The markers of all forms. -/
def Expr.markers : List String := Expr.forms.map Prod.fst

namespace Form

/-- The form that an object is written in, checked for its markers and for stray fields. -/
def parse (f : Form) : Except ParseFailure Expr :=
  let keys := f.fields.map Prod.fst
  match keys.filter fun k => Expr.markers.contains k with
  | [] => f.refuse (.noMarker (sortedTexts keys))
  | [marker] =>
    match Expr.forms.lookup marker with
    | some (allowed, build) =>
      match keys.filter fun k => k != marker && !allowed.contains k with
      | [] => build f
      | unexpected => f.refuse (.unexpectedKeys marker (sortedTexts unexpected))
    | none => f.refuse (.noMarker (sortedTexts keys))
  | markers => f.refuse (.manyMarkers (sortedTexts markers))

end Form

/-- Reads the items of an array from an index on. -/
def arrayFrom (path : String) : Nat → List Value → Except ParseFailure (List Float)
  | _, [] => .ok []
  | i, v :: rest =>
    match v.leafNumber with
    | .error fault => .error (.numeric fault)
    | .ok none => .error (.malformed path (.badItem v i))
    | .ok (some x) => (arrayFrom path (i + 1) rest).map (x :: ·)

/-- Reads a list as a fixed array. -/
def readArray (items : List Value) : Reader := fun path =>
  if items.isEmpty then .error (.malformed path .emptyArray)
  else (arrayFrom path 0 items).map .literal

/-- Reads a value without parts. -/
def readLeaf (v : Value) : Reader := fun path =>
  match v.leafNumber with
  | .error fault => .error (.numeric fault)
  | .ok (some x) => .ok (.literal [x])
  | .ok none =>
    match v with
    | .text s => if s = "input" then .ok .input else .error (.malformed path (.strayText s))
    | _ => .error (.malformed path (.notExpression v))

namespace Value

mutual
/-- **How a value reads as an expression.** -/
def reading : Value → Reading
  | .list items => ⟨readArray items, some (itemReaders items)⟩
  | .object fields => ⟨fun path => Form.parse ⟨fields, fieldReadings fields, path⟩, none⟩
  | .null => ⟨readLeaf .null, none⟩
  | .bool b => ⟨readLeaf (.bool b), none⟩
  | .int n => ⟨readLeaf (.int n), none⟩
  | .float x => ⟨readLeaf (.float x), none⟩
  | .text s => ⟨readLeaf (.text s), none⟩
  | .moment m => ⟨readLeaf (.moment m), none⟩

/-- How the items of a list read. -/
def itemReaders : List Value → List Reader
  | [] => []
  | v :: rest => (reading v).expression :: itemReaders rest

/-- How the fields of an object read. -/
def fieldReadings : List (String × Value) → List (String × Reading)
  | [] => []
  | (k, v) :: rest => (k, reading v) :: fieldReadings rest
end

end Value

/-- **The expression of a value** that stands at a place of a document. -/
def Expr.parse (v : Value) (path : String) : Except ParseFailure Expr := v.reading.expression path

end ValuedGraph
