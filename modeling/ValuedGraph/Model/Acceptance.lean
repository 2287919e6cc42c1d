import ValuedGraph.Definition.Basic
import ValuedGraph.Definition.Error
import ValuedGraph.Expr.Validation
import ValuedGraph.Graph.Digraph

/-!
# Acceptance

A definition can be computed if every name in it refers to something, every expression is
valid where it is used, and neither the dependencies of properties nor the edges between
nodes run in circles. Such a definition is accepted, and becomes a model.

* `Definition.accept`: the model of a definition, or the first thing that is wrong with it.
-/

namespace ValuedGraph

/-- **Why a definition is not accepted.** -/
inductive AcceptanceError where
  | unknownProperty (path name : String)
  | unknownTag (path name : String)
  | unknownType (path type : String)
  | unknownRef (path ref : String)
  | unknownNode (path node : String)
  | reservedConstants (path : String) (names : List String)
  | misuse (m : Misuse)
  | dependencyCycle (properties : List String)
  | edgeCycle (nodes : List String)
  | emptyNodeId
  | emptyScenarioName
  deriving DecidableEq, Repr

namespace AcceptanceError

/-- The wording of an error. -/
def message : AcceptanceError → String
  | unknownProperty path name => s!"{path}: '{name}' is not a defined property"
  | unknownTag path name => s!"{path}: '{name}' is not a defined tag"
  | unknownType path type => s!"{path}: edge type '{type}' is not a defined property"
  | unknownRef path ref => s!"{path}: ref '{ref}' is not a defined node"
  | unknownNode path node => s!"{path}: '{node}' is not a defined node"
  | reservedConstants path names => s!"{path}: {quotedList names} are reserved edge field names"
  | misuse m => located m.path m.violation.message
  | dependencyCycle properties =>
    "Property dependencies form a cycle among " ++ quotedList properties
  | edgeCycle nodes => "Edges between nodes form a cycle among " ++ quotedList nodes
  | emptyNodeId => "Node ids may not be empty: the empty id is reserved for the root"
  | emptyScenarioName => "The default scenario (empty name) may not be declared explicitly"

/-- The place of the expression that an error is about, if it is about one. -/
def expressionPath? : AcceptanceError → Option String
  | misuse m => some m.path
  | _ => none

end AcceptanceError

/-- The result of a check that has nothing to tell if it goes well. -/
abbrev Acceptance := Except AcceptanceError Unit

/-- Demands a condition. -/
def demand (condition : Bool) (error : AcceptanceError) : Acceptance :=
  if condition then .ok () else .error error

/-- Demands that no reserved name is among the names of constants. -/
def demandUnreserved (path : String) (constants : Table Float) : Acceptance :=
  let reserved := reservedAmong constants.keys
  demand reserved.isEmpty (.reservedConstants path reserved)

/-- What the value of a property lacks. -/
def valueLacks : List Capability := [.input]

/-- What the display settings of edges lack. -/
def edgeDisplayLacks : List Capability := [.input]

/-- What the display settings of edges drawn as one lack. -/
def mergedDisplayLacks : List Capability := [.edgeConstant, .parentValue, .tagHas, .tagConstant]

/-- What the display settings of nodes lack. -/
def nodeDisplayLacks : List Capability := [.edgeConstant, .parentValue, .input]

/-- What the overrides of scenarios lack. -/
def overrideLacks : List Capability := [.edgeConstant, .parentValue]

/-- What a message calls a node of an overlay. -/
def overlayName (node : String) : String := if node = rootId then "root" else node

namespace Definition

/-- What every place of a definition allows. -/
def permissions (d : Definition) (owner : String) (disallowed : List Capability) : Permissions :=
  { properties := d.properties.keys, tags := d.tags.keys, owner, disallowed }

/-- What the value of a property may refer to. -/
def valuePermissions (d : Definition) (p : Property) (name : String) : Permissions :=
  { d.permissions s!"property '{name}'" valueLacks with
    constants := p.constants.keys, dependencies := some p.dependencies }

/-- What the display settings of the edges of a type may refer to. -/
def edgeDisplayPermissions (d : Definition) (p : Property) (name : String) : Permissions :=
  { d.permissions s!"edge display of '{name}'" edgeDisplayLacks with
    constants := p.constants.keys }

/-- **The display settings of the edges of a type:** those of all edges, overlaid with its
own. -/
def edgeDisplay (d : Definition) (p : Property) : Table Expr := d.display.edge.overlay p.display

/-- **The display settings of a node:** those of all nodes, overlaid with its own. -/
def nodeDisplay (d : Definition) (n : Node) : Table Expr := d.display.node.overlay n.display

/-- Demands that an expression is valid at its place. -/
def demandValid (e : Expr) (p : Permissions) (path : String) : Acceptance :=
  (e.validate p path).mapError .misuse

/-- Demands that a name is that of a property. -/
def demandProperty (d : Definition) (path name : String) : Acceptance :=
  demand (decide (name ∈ d.properties)) (.unknownProperty path name)

/-- The place of a display setting of the edges of a type. -/
def edgeDisplayPath (p : Property) (path key : String) : String :=
  if key ∈ p.display then s!"{path}.display.{key}" else s!"display.edge.{key}"

/-- Checks a property. -/
def checkProperty (d : Definition) (name : String) (p : Property) : Acceptance := do
  let path := s!"properties.{name}"
  p.dependencies.forM (d.demandProperty s!"{path}.dependencies")
  p.implies.forM (d.demandProperty s!"{path}.implies")
  demandUnreserved s!"{path}.constants" p.constants
  demandValid p.value (d.valuePermissions p name) s!"{path}.value"
  (d.edgeDisplay p).entries.forM fun (key, e) =>
    demandValid e (d.edgeDisplayPermissions p name) (edgeDisplayPath p path key)

/-- The graph of properties: an edge leads from each to those it depends on. -/
def dependencyGraph (d : Definition) : Adjacency := d.properties.map fun _ p => p.dependencies

/-- **The order in which properties are computed:** each after those it depends on. -/
def propertyOrder (d : Definition) : Except AcceptanceError (List String) :=
  match d.dependencyGraph.order with
  | .ok order => .ok order.reverse
  | .error cyclic => .error (.dependencyCycle (sortedTexts cyclic.remaining))

/-- Checks the display settings of the definition itself. Those of edges are checked with
every property. -/
def checkDisplay (d : Definition) : Acceptance := do
  d.display.node.entries.forM fun (key, e) =>
    demandValid e (d.permissions "node display" nodeDisplayLacks) s!"display.node.{key}"
  d.display.edgeCombiner.entries.forM fun (key, e) =>
    demandValid e (d.permissions "edge combiner display" mergedDisplayLacks)
      s!"display.edgeCombiner.{key}"

/-- Checks an edge. -/
def checkEdge (d : Definition) (path : String) (e : Edge) : Acceptance := do
  demand (decide (e.type ∈ d.properties)) (.unknownType path e.type)
  match e.ref with
  | some ref => demand (decide (ref ∈ d.nodes)) (.unknownRef path ref)
  | none => pure ()
  demandUnreserved path e.constants

/-- Checks a node. -/
def checkNode (d : Definition) (id : String) (n : Node) : Acceptance := do
  let path := s!"nodes.{id}"
  demand (id != rootId) .emptyNodeId
  n.values.keys.forM (d.demandProperty s!"{path}.values")
  n.tags.forM fun tag => demand (decide (tag ∈ d.tags)) (.unknownTag s!"{path}.tags" tag)
  n.edges.zipIdx.forM fun (e, i) => d.checkEdge s!"{path}.edges[{i}]" e
  n.display.entries.forM fun (key, e) =>
    demandValid e (d.permissions s!"node display of '{id}'" nodeDisplayLacks)
      s!"{path}.display.{key}"

/-- Checks the overrides of a scenario. -/
def checkScenario (d : Definition) (name : String) (s : Scenario) : Acceptance := do
  demand (name != defaultScenario) .emptyScenarioName
  s.overlay.entries.forM fun (node, overrides) => do
    demand (node == rootId || decide (node ∈ d.nodes)) (.unknownNode s!"scenarios.{name}" node)
    overrides.entries.forM fun (property, e) => do
      let path := s!"scenarios.{name}.{overlayName node}"
      d.demandProperty path property
      demandValid e (d.permissions s!"scenario '{name}'" overrideLacks) s!"{path}.{property}"

/-- **The graph of nodes:** an edge leads to each from those it refers to. -/
def nodeGraph (d : Definition) : Digraph :=
  Digraph.ofEdges
    (d.nodes.entries.flatMap fun (id, n) => n.edges.map fun e => (e.target, id))
    (rootId :: d.nodes.keys)

/-- **The order in which nodes are computed:** each after those it refers to. -/
def nodeOrder (d : Definition) : Except AcceptanceError (List String) :=
  match d.nodeGraph.order with
  | .ok order => .ok order
  | .error cyclic => .error (.edgeCycle (sortedTexts cyclic.remaining))

end Definition

/-- **A definition that has been accepted,** with the orders in which it is computed. -/
structure Model where
  definition : Definition
  /-- the properties, each after those it depends on -/
  propertyOrder : List String
  /-- the graph of nodes -/
  graph : Digraph
  /-- the root and the nodes, each after those it refers to -/
  nodeOrder : List String

/-- **The model of a definition,** or the first thing that is wrong with it. -/
def Definition.accept (d : Definition) : Except AcceptanceError Model := do
  d.properties.entries.forM fun (name, p) => d.checkProperty name p
  let propertyOrder ← d.propertyOrder
  d.root.keys.forM (d.demandProperty "root")
  d.checkDisplay
  d.nodes.entries.forM fun (id, n) => d.checkNode id n
  d.scenarios.entries.forM fun (name, s) => d.checkScenario name s
  let nodeOrder ← d.nodeOrder
  return { definition := d, propertyOrder, graph := d.nodeGraph, nodeOrder }

end ValuedGraph
