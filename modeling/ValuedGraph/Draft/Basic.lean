import ValuedGraph.Draft.Check
import ValuedGraph.Vocabulary

/-!
# Drafts

A draft is a definition as its author wrote it: its shape has been checked, but expressions,
numbers and edges are still documents. Libraries are drafts of the parts that several
definitions share.

* `Draft.check`: a document as the draft of a definition.
* `Library.check`: a document as a library.
-/

namespace ValuedGraph

/-- When a property is computed, and not taken from the root. -/
inductive CalculateWhen where
  | edges | always
  deriving DecidableEq, Repr, Inhabited

instance : Vocabulary CalculateWhen where
  all := [.edges, .always]
  word
    | .edges => "edges" | .always => "always"
  name
    | .edges => "EDGES" | .always => "ALWAYS"
  about
    | .edges => "Only on nodes with at least one edge of the property's type"
    | .always => "On every node, even without edges of the property's type"

/-- **Which properties a property implies.** -/
inductive ImpliesRule where
  /-- every other property -/
  | everything
  | listed (names : List String)
  /-- every other property but some -/
  | allBut (names : List String)
  deriving DecidableEq, Repr

/-- The word for every other property. -/
def ImpliesRule.wildcard : String := "*"

/-- The edges of a node, as a list or keyed by their types and refs. -/
inductive EdgesDraft where
  | listed (items : List Value)
  | keyed (groups : List (String × Value))

/-- A property as written. -/
structure PropertyDraft where
  value : Value
  description : String
  displayName : String
  usage : String
  combine : Option String
  dependencies : Option (List String)
  implies : Option ImpliesRule
  constants : Table Value
  hide : Bool
  calculateWhen : CalculateWhen
  extendTags : Bool
  display : Table Value

/-- **A tag:** what it is called and the constants it carries. -/
structure Tag where
  displayName : String
  description : String
  color : Option String
  constants : Table Float

/-- Display settings as written: for nodes, for edges, and for edges drawn as one. -/
structure DisplayDraft where
  node : Table Value := ∅
  edge : Table Value := ∅
  edgeCombiner : Table Value := ∅

/-- A node as written. -/
structure NodeDraft where
  description : String
  displayName : String
  values : Table Value
  edges : EdgesDraft
  tags : List String
  display : Table Value

/-- A scenario as written. -/
structure ScenarioDraft where
  description : String
  parent : Option String
  nodes : Table (Table Value)
  root : Table Value

/-- **What libraries and definitions have in common.** -/
structure Bundle where
  properties : Table PropertyDraft := ∅
  root : Table Value := ∅
  tags : Table Tag := ∅
  display : DisplayDraft := {}

/-- **A library:** a bundle that definitions and other libraries import by name. -/
structure Library where
  description : String
  imports : List String
  bundle : Bundle

/-- **The draft of a definition.** -/
structure Draft where
  version : Int
  description : String
  imports : List String
  bundle : Bundle
  nodes : Table NodeDraft
  scenarios : Table ScenarioDraft

namespace Check

/-- The word for every other property. -/
def wildcard : Check ImpliesRule
  | loc, .text s => if s = ImpliesRule.wildcard then pure .everything else .problem loc .badWord
  | loc, _ => .problem loc .badWord

/-- An object that lists exceptions. -/
def exceptions : Check (List String) :=
  model ["exclude"] fun r => r.required "exclude" (listOf text)

def implies : Check ImpliesRule :=
  oneOf
    [("literal['*']", wildcard),
     ("list[str]", fun loc v => ImpliesRule.listed <$> listOf text loc v),
     ("RawImpliesExclude", fun loc v => ImpliesRule.allBut <$> exceptions loc v)]

/-- One of the words that say when a property is computed. -/
def calculateWhen : Check CalculateWhen := fun loc v =>
  match Vocabulary.ofValue? v with
  | some w => pure w
  | none => .problem loc .badWord

def property : Check PropertyDraft :=
  model ["value", "description", "displayName", "usage", "combine", "dependencies", "implies",
      "constants", "hide", "calculateWhen", "extendTags", "display"] fun r =>
    PropertyDraft.mk <$> r.required "value" any
      <*> r.optional "description" "" text
      <*> r.optional "displayName" "" text
      <*> r.optional "usage" "" text
      <*> r.optional "combine" none (nullable text)
      <*> r.optional "dependencies" none (nullable (listOf text))
      <*> r.optional "implies" none (nullable implies)
      <*> r.optional "constants" ∅ (tableOf any)
      <*> r.optional "hide" false boolean
      <*> r.optional "calculateWhen" .edges calculateWhen
      <*> r.optional "extendTags" false boolean
      <*> r.optional "display" ∅ (tableOf any)

def tag : Check Tag :=
  model ["displayName", "description", "color", "constants"] fun r =>
    Tag.mk <$> r.optional "displayName" "" text
      <*> r.optional "description" "" text
      <*> r.optional "color" none (nullable text)
      <*> r.optional "constants" ∅ (tableOf number)

def display : Check DisplayDraft :=
  model ["node", "edge", "edgeCombiner"] fun r =>
    DisplayDraft.mk <$> r.optional "node" ∅ (tableOf any)
      <*> r.optional "edge" ∅ (tableOf any)
      <*> r.optional "edgeCombiner" ∅ (tableOf any)

/-- An object with any names, as it stands. -/
def object : Check Value
  | _, .object fields => pure (.object fields)
  | loc, _ => .problem loc .notTable

/-- The groups of edges written by keys. -/
def edgeGroups : Check EdgesDraft
  | _, .object fields => pure (.keyed fields)
  | loc, _ => .problem loc .notTable

def edges : Check EdgesDraft :=
  oneOf
    [("list[dict[str,any]]", fun loc v => EdgesDraft.listed <$> listOf object loc v),
     ("dict[str,any]", edgeGroups)]

def node : Check NodeDraft :=
  model ["description", "displayName", "values", "edges", "tags", "display"] fun r =>
    NodeDraft.mk <$> r.optional "description" "" text
      <*> r.optional "displayName" "" text
      <*> r.optional "values" ∅ (tableOf any)
      <*> ((fun e => Option.getD e (.listed [])) <$> r.optional "edges" none (nullable edges))
      <*> r.optional "tags" [] (listOf text)
      <*> r.optional "display" ∅ (tableOf any)

def scenario : Check ScenarioDraft :=
  model ["description", "extends", "nodes", "root"] fun r =>
    ScenarioDraft.mk <$> r.optional "description" "" text
      <*> r.optional "extends" none (nullable text)
      <*> r.optional "nodes" ∅ (tableOf (tableOf any))
      <*> r.optional "root" ∅ (tableOf any)

/-- The fields of every bundle. -/
def bundle (r : Record) : Checked Bundle :=
  Bundle.mk <$> r.optional "properties" ∅ (tableOf property)
    <*> r.optional "root" ∅ (tableOf any)
    <*> r.optional "tags" ∅ (tableOf tag)
    <*> r.optional "display" {} display

/-- The names of the libraries a definition imports: one, several or none. -/
def imports : Check (List String) := fun loc v =>
  (fun names => Option.getD names []) <$>
    nullable (oneOf
      [("str", fun loc v => (fun s => [s]) <$> text loc v), ("list[str]", listOf text)]) loc v

def library : Check Library :=
  model ["description", "imports", "properties", "root", "tags", "display"] fun r =>
    Library.mk <$> r.optional "description" "" text
      <*> r.optional "imports" [] (listOf text)
      <*> bundle r

def draft : Check Draft :=
  model ["version", "description", "library", "properties", "root", "tags", "display", "nodes",
      "scenarios"] fun r =>
    Draft.mk <$> r.required "version" integer
      <*> r.optional "description" "" text
      <*> r.optional "library" [] imports
      <*> bundle r
      <*> r.required "nodes" (tableOf node)
      <*> r.optional "scenarios" ∅ (tableOf scenario)

end Check

/-- **A document as a library,** or all that is wrong with its shape. -/
def Library.check (v : Value) : Checked Library := Check.library [] v

/-- **A document as the draft of a definition,** or all that is wrong with its shape. -/
def Draft.check (v : Value) : Checked Draft := Check.draft [] v

end ValuedGraph
