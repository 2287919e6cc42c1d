import ValuedGraph.Draft.Basic
import ValuedGraph.Expr.Parser

/-!
# Errors of definitions

Why a draft is not a definition. A number beyond the range of doubles is no error of this
kind: it is a numeric fault, which ends the reading of a draft as well.

* `DefinitionError.message`: the wording of each error.
-/

namespace ValuedGraph

/-- A message with the place it is about, if there is one. -/
def located (path message : String) : String :=
  if path = "" then message else s!"{path}: {message}"

/-- **Why a draft is not a definition.** -/
inductive DefinitionError where
  /-- there is no draft -/
  | absent
  | badShape (problems : List Problem)
  | badLibrary (name : String) (problems : List Problem)
  | unknownLibrary (name : String)
  | importCycle (chain : List String)
  | notNumber (path : String) (v : Value)
  | unknownSetting (path key : String) (settings : List String)
  | badPropertyName (name : String)
  | unknownCombiner (path word : String)
  | reservedConstants (path : String) (names : List String)
  | excludesUnknown (property : String) (names : List String)
  | impliesUnknown (property : String) (names : List String)
  | notEdge (path : String) (v : Value)
  /-- an edge has another type than its place gives it -/
  | typeConflict (path : String) (found : Value) (type : String)
  /-- an edge has another ref than its place gives it -/
  | refConflict (path : String) (found : Value) (ref : String)
  | noType (path : String)
  | badRef (path : String) (found : Value)
  | reservedField (path key : String)
  /-- a key of edges names a property and a node -/
  | ambiguousKey (path key : String)
  /-- a key of edges names neither a property nor a node -/
  | strangeKey (path key : String)
  | unknownParent (scenario parent : String)
  | parentCycle (scenarios : List String)
  /-- a document that should be an expression is none -/
  | malformed (path : String) (error : SyntaxError)

namespace DefinitionError

/-- The wording of an error. -/
def message : DefinitionError → String
  | absent => "No definition provided"
  | badShape _ => "Invalid map definition"
  | badLibrary name _ => s!"Invalid library {quoted name}"
  | unknownLibrary name => s!"Unknown library: {quoted name}"
  | importCycle chain => "Library imports form a cycle: " ++ " -> ".intercalate chain
  | notNumber path v => s!"{path}: expected a number, boolean or null, got {v.literal}"
  | unknownSetting path key settings =>
    s!"{path}: unknown display setting {quoted key} (expected one of {commaSeparated settings})"
  | badPropertyName name => s!"Illegal property name: {quoted name}"
  | unknownCombiner path word =>
    s!"{path}: " ++ Vocabulary.unknown Combiner "combiner" (.text word)
  | reservedConstants path names => s!"{path}: {quotedList names} are reserved edge field names"
  | excludesUnknown property names =>
    s!"properties.{property}.implies excludes unknown properties: {quotedList names}"
  | impliesUnknown property names =>
    s!"properties.{property}.implies names unknown properties: {quotedList names}"
  | notEdge path v => s!"{path}: an edge must be a mapping, got {v.literal}"
  | typeConflict path found type =>
    s!"{path}: edge type {found.literal} conflicts with its position under {quoted type}"
  | refConflict path found ref =>
    s!"{path}: edge ref {found.literal} conflicts with its position under {quoted ref}"
  | noType path => s!"{path}: edge has no type"
  | badRef path found => s!"{path}: edge ref must be a string, got {found.literal}"
  | reservedField path key => s!"{path}: {quoted key} is a reserved edge field name"
  | ambiguousKey path key =>
    s!"{path}: {quoted key} is both a property and a node id, use the list edge syntax"
  | strangeKey path key => s!"{path}: {quoted key} is neither a property nor a node id"
  | unknownParent scenario parent =>
    s!"scenarios.{scenario}.extends: unknown scenario {quoted parent}"
  | parentCycle scenarios => "Scenario extends form a cycle among " ++ quotedList scenarios
  | malformed path error => located path error.message

/-- The problems of shape behind an error. -/
def problems : DefinitionError → List Problem
  | badShape ps | badLibrary _ ps => ps
  | _ => []

/-- The place of the expression that an error is about, if it is about one. -/
def expressionPath? : DefinitionError → Option String
  | malformed path _ => some path
  | _ => none

/-- The value that the wording of an error has to write. -/
def value? : DefinitionError → Option Value
  | notNumber _ v | notEdge _ v | typeConflict _ v _ | refConflict _ v _ | badRef _ v => some v
  | malformed _ error => error.value?
  | _ => none

end DefinitionError

/-- **Why reading a draft fails.** -/
inductive DraftFailure where
  | rejected (error : DefinitionError)
  | numeric (fault : NumericFault)

/-- A failure once it is put into words. An error about a value that no message can write gives
way to the fault of writing it. -/
def DraftFailure.worded : DraftFailure → DraftFailure
  | rejected error =>
    if error.value?.all Value.isWritable then rejected error else numeric .unwritableInteger
  | failure => failure

/-- The result of reading a part of a draft. -/
abbrev Resolved (α : Type) := Except DraftFailure α

namespace Resolved

variable {α : Type}

/-- Rejects a draft. -/
def reject (error : DefinitionError) : Resolved α := .error (.rejected error)

/-- The number of a leaf at a place. -/
def number (path : String) (v : Value) : Resolved Float :=
  match v.leafNumber with
  | .ok (some x) => .ok x
  | .ok none => reject (.notNumber path v)
  | .error fault => .error (.numeric fault)

/-- The numbers of a table at a place. -/
def numbers (path : String) (t : Table Value) : Resolved (Table Float) :=
  t.traverse fun k v => number s!"{path}.{k}" v

/-- The expression at a place. -/
def expression (path : String) (v : Value) : Resolved Expr :=
  match Expr.parse v path with
  | .ok e => .ok e
  | .error (.malformed path error) => reject (.malformed path error)
  | .error (.numeric fault) => .error (.numeric fault)

/-- The expression at a place that belongs to a property, which it may call by a shorter
name. -/
def ownExpression (owner path : String) (v : Value) : Resolved Expr :=
  (expression path v).map (Expr.rename selfProperty owner)

/-- Display settings at a place, each of which has to be a known one. -/
def settings (known : List String) (read : String → Value → Resolved Expr) (path : String)
    (t : Table Value) : Resolved (Table Expr) :=
  t.traverse fun key v =>
    if known.contains key then read s!"{path}.{key}" v
    else reject (.unknownSetting path key known)

end Resolved

end ValuedGraph
