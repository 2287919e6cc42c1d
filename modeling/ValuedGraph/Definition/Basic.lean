import ValuedGraph.Draft.Basic
import ValuedGraph.Expr.Basic

/-!
# Definitions

A definition describes a graph whose nodes have values: the properties, how each of them is
computed, the nodes with their edges, the tags, and the scenarios that override values.

* `ExpandedEdge.constantsOver`: the constants an edge is evaluated with.
* `Scenario.withOverride`, `Scenario.withoutOverride`: edits of one override.
-/

namespace ValuedGraph

/-- The settings of a drawn node. -/
def nodeSettings : List String :=
  ["radius", "color", "opacity", "strokeWidth", "strokeColor", "strokeOpacity"]

/-- The settings of a drawn edge. -/
def edgeSettings : List String := ["width", "color", "opacity", "distinct"]

/-- The settings of an edge drawn for several others. -/
def mergedEdgeSettings : List String := ["width", "color", "opacity"]

/-- **A property:** a number that every node has, and the type of the edges it flows along. -/
structure Property where
  name : String
  /-- what is computed for the edges of the property's type -/
  value : Expr
  /-- how the numbers of several edges become one -/
  combiner : Combiner := Combiner.default
  /-- the properties of the same node that the value may read -/
  dependencies : List String := []
  /-- the types of the edges that come with an edge of this type -/
  implies : List String := []
  /-- the constants of edges of this type, with their defaults -/
  constants : Table Float := ∅
  /-- whether texts leave the property out -/
  hide : Bool := false
  description : String := ""
  displayName : String := ""
  usage : String := ""
  calculateWhen : CalculateWhen := .edges
  /-- whether tags are inherited along edges of this type -/
  extendTags : Bool := false
  /-- the display settings of edges of this type -/
  display : Table Expr := ∅

/-- What texts call a property. -/
def Property.label (p : Property) : String := if p.displayName = "" then p.name else p.displayName

/-- **An edge as its author means it.** Without a ref it leads to the root. -/
structure Edge where
  type : String
  ref : Option String := none
  constants : Table Float := ∅

/-- The node an edge leads to. -/
def Edge.target (e : Edge) : String := e.ref.getD rootId

/-- **An edge as it is computed with,** written by the author or implied by one that is. -/
structure ExpandedEdge where
  source : String
  ref : String
  type : String
  /-- the constants of the edge itself -/
  constants : Table Float := ∅
  implied : Bool := false

/-- **The constants an edge is evaluated with:** the defaults of its type, its own constants,
and whether it is implied. -/
def ExpandedEdge.constantsOver (e : ExpandedEdge) (defaults : Table Float) : Table Float :=
  (defaults.overlay e.constants).insert impliedConstant (truth e.implied)

/-- **A node.** Values that are given are not computed. -/
structure Node where
  description : String := ""
  displayName : String := ""
  values : Table Float := ∅
  edges : List Edge := []
  tags : List String := []
  display : Table Expr := ∅

/-- Overrides of the values of nodes. The overrides of the root stand under its id. -/
abbrev Overlay := Table (Table Expr)

/-- **A scenario:** overrides of values, those of its parents included. -/
structure Scenario where
  name : String
  description : String := ""
  parent : Option String := none
  overlay : Overlay := ∅

namespace Scenario

/-- The scenario without overrides. -/
def blank : Scenario := { name := defaultScenario }

/-- Whether a value of the root is overridden. -/
def touchesRoot (s : Scenario) : Bool := decide (rootId ∈ s.overlay)

/-- The overrides of a node. -/
def overrides (s : Scenario) (node : String) : Table Expr := s.overlay.getD node ∅

/-- **A scenario with one more override.** -/
def withOverride (s : Scenario) (node property : String) (value : Expr) : Scenario :=
  { s with overlay := s.overlay.insert node ((s.overrides node).insert property value) }

/-- **A scenario without one override.** A node without overrides leaves the overlay. -/
def withoutOverride (s : Scenario) (node property : String) : Scenario :=
  let rest := (s.overrides node).erase property
  { s with
    overlay := if rest.isEmpty then s.overlay.erase node else s.overlay.insert node rest }

end Scenario

/-- Display settings: for nodes, for edges, and for edges drawn as one. -/
structure Display where
  node : Table Expr := ∅
  edge : Table Expr := ∅
  edgeCombiner : Table Expr := ∅

/-- **A definition,** with everything its libraries contribute. -/
structure Definition where
  version : Int := 1
  description : String := ""
  /-- the libraries that were merged, in order -/
  libraries : List String := []
  properties : Table Property := ∅
  /-- the values of the root that are given -/
  root : Table Float := ∅
  nodes : Table Node := ∅
  scenarios : Table Scenario := ∅
  tags : Table Tag := ∅
  display : Display := {}

end ValuedGraph
