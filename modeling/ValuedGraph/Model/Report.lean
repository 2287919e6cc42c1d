import ValuedGraph.Document.Toml.Printer
import ValuedGraph.Model.Session

/-!
# Reports

What a model tells about itself: its nodes and how they are related, the values of a node or
of all nodes together, and the document that values are exported to.

* `Model.info`: a node and its neighbours.
* `Model.summary`: the values of all nodes, reduced property by property.
* `Model.report`: all values, as they are exported.
-/

namespace ValuedGraph

/-- **A number in a text:** the null number by name, any other one with six digits. -/
def numberText (x : Float) : String := if x == nullNumber then "null" else shortText x

/-- **A node and its neighbours.** -/
structure NodeInfo where
  id : String
  description : String
  displayName : String
  /-- the nodes that its edges lead to -/
  parents : List String
  /-- the nodes with edges to it -/
  children : List String

/-- Whether a node is the root. -/
def NodeInfo.isRoot (i : NodeInfo) : Bool := i.id == rootId

/-- **All values of a model.** -/
structure ValuesReport where
  scenario : String
  root : List (String × Float)
  nodes : List (String × List (String × Float))

namespace ValuesReport

/-- The tables of nodes, or an empty one if there is no node. -/
def nodeSections (r : ValuesReport) : List String :=
  if r.nodes.isEmpty then [Toml.tableText ["nodes"] []]
  else r.nodes.map fun (id, values) => Toml.tableText ["nodes", id] values

/-- **The document of a report.** -/
def text (r : ValuesReport) : String :=
  let heading :=
    if r.scenario = defaultScenario then []
    else [Toml.assignment "scenario" (Toml.textLiteral r.scenario)]
  "\n".intercalate (heading ++ Toml.tableText ["root"] r.root :: r.nodeSections)

end ValuesReport

namespace Model

/-- The ids of the nodes, in the order in which they are declared. -/
def nodeIds (m : Model) : List String := m.definition.nodes.keys

/-- The names of the scenarios, the default one apart. -/
def scenarioNames (m : Model) : List String := m.definition.scenarios.keys

/-- The root as a node. -/
def rootNode : Node := { description := "Default values of every property" }

/-- The node with an id, which may be the root. -/
def node? (m : Model) (id : String) : Option Node :=
  if id = rootId then some rootNode else m.definition.nodes.get? id

/-- The node with an id, or the failure that there is none. -/
def find (m : Model) (id : String) : Session Node :=
  match m.node? id with
  | some n => pure n
  | none => Session.fail (.unknownNode id)

/-- What texts call a node. -/
def displayName (id : String) (n : Node) : String :=
  if n.displayName != "" then n.displayName
  else if id = rootId then rootDisplayName else id

/-- The nodes that the edges of a node lead to, without the root. -/
def parents (m : Model) (id : String) : Session (List String) :=
  return ((← m.edges id).map ExpandedEdge.ref).eraseDups.filter (· != rootId)

/-- The nodes with edges to a node, in the order in which they are declared. -/
def children (m : Model) (id : String) : List String :=
  let successors := m.graph.successors id
  m.nodeIds.filter fun k => successors.contains k

/-- **A node and its neighbours.** -/
def info (m : Model) (id : String) : Session NodeInfo := do
  let n ← m.find id
  let parents ← m.parents id
  return {
    id, parents
    description := n.description
    displayName := displayName id n
    children := m.children id }

/-- **The tags of a node,** those of all properties together. -/
def allTags (m : Model) (id : String) : Session TagMembership := do
  let n ← m.find id
  let table ← m.tags id
  return table.values.foldl TagMembership.union ⟨n.tags, n.tags⟩

/-- **The edges of all nodes.** -/
def allEdges (m : Model) : Session (List ExpandedEdge) :=
  return (← m.nodeIds.mapM m.edges).flatten

/-- **A node as it is drawn.** -/
def draw (m : Model) (id : String) : Session DrawnNode := do
  let n ← m.find id
  let root ← m.rootValues
  let results ← m.values id
  let tags ← m.allTags id
  Session.derive (m.drawNode n root results tags)

/-- The values of one property, node by node. -/
def column (m : Model) (name : String) : Session (List Float) :=
  m.nodeIds.mapM fun id => do Session.derive (Derived.entry (← m.nodeValues id) name)

/-- The values of a property on all nodes, reduced as those of several edges would be. -/
def summaryOf (m : Model) (name : String) : Session (String × Float) := do
  let p ← Session.derive (m.property name)
  let xs ← m.column name
  let x ← Session.derive (Traced.mapError .eval (Eval.numeric (p.combiner.apply xs)))
  return (name, x)

/-- **The values of all nodes,** reduced property by property. -/
def summary (m : Model) : Session (List (String × Float)) := m.propertyOrder.mapM m.summaryOf

/-- The properties that texts show, in the order in which they are computed. -/
def shown (m : Model) (hidden : Bool) : List (String × Property) :=
  m.propertyOrder.filterMap fun name => do
    let p ← m.definition.properties.get? name
    if p.hide && !hidden then none else some (name, p)

/-- **Values as a text,** a line for each property. -/
def valuesText (m : Model) (title : String) (values : Table Float) (hidden : Bool) :
    Derived String := do
  let lines ← (m.shown hidden).mapM fun (name, p) =>
    return s!"  {p.label}: {numberText (← Derived.entry values name)}"
  return "\n".intercalate (title :: lines)

/-- The values of a node as a text. -/
def nodeText (m : Model) (id : String) (hidden : Bool) : Session String := do
  let n ← m.find id
  let values ← m.values id
  Session.derive (m.valuesText (displayName id n) values hidden)

/-- The summary as a text. -/
def summaryText (m : Model) (hidden : Bool) : Session String := do
  let values ← m.summary
  Session.derive (m.valuesText "Summary" (.ofList values) hidden)

/-- The values that a report shows. -/
def pick (m : Model) (hidden : Bool) (values : Table Float) :
    Derived (List (String × Float)) :=
  (m.shown hidden).mapM fun (name, _) => return (name, ← Derived.entry values name)

/-- **All values of a model.** -/
def report (m : Model) (hidden : Bool) : Session ValuesReport := do
  let root ← Session.derive (m.pick hidden (← m.rootValues))
  let nodes ← m.nodeIds.mapM fun id => do
    return (id, ← Session.derive (m.pick hidden (← m.nodeValues id)))
  return { root, nodes, scenario := (← Session.memo).scenario }

end Model

end ValuedGraph
