import ValuedGraph.Definition.Edges
import ValuedGraph.Definition.Libraries
import ValuedGraph.Definition.Scenarios

/-!
# From drafts to definitions

A draft becomes a definition: its libraries are merged, its expressions read, its edges
brought into one form, and its scenarios completed. Whether names refer to anything is not
looked at here.

* `Draft.resolve`: the definition of a draft.
* `Definition.ofDocument`: the definition of a document.
-/

namespace ValuedGraph

/-- The properties that a property implies. -/
def ImpliesRule.resolve (property : String) (names : List String) :
    Option ImpliesRule → Resolved (List String)
  | none => .ok []
  | some everything => .ok (names.filter (· != property))
  | some (allBut excluded) =>
    match excluded.eraseDups.filter fun k => !names.contains k with
    | [] => .ok (names.filter fun k => k != property && !excluded.contains k)
    | unknown => Resolved.reject (.excludesUnknown property (sortedTexts unknown))
  | some (listed implied) =>
    match implied.eraseDups.filter fun k => !names.contains k with
    | [] => .ok (implied.eraseDups.filter (· != property))
    | unknown => Resolved.reject (.impliesUnknown property unknown)

/-- The combiner with a word. -/
def Resolved.combiner (path : String) : Option String → Resolved Combiner
  | none => .ok Combiner.default
  | some word =>
    match (Vocabulary.ofWord? word : Option Combiner) with
    | some c => .ok c
    | none => Resolved.reject (.unknownCombiner path word)

/-- **The property of a draft.** `names` are the names of all properties. -/
def PropertyDraft.resolve (names : List String) (name : String) (d : PropertyDraft) :
    Resolved Property := do
  let path := s!"properties.{name}"
  if name = "" || name = selfProperty then Resolved.reject (.badPropertyName name)
  let value ← Resolved.ownExpression name s!"{path}.value" d.value
  let combiner ← Resolved.combiner s!"{path}.combine" d.combine
  let constants ← Resolved.numbers s!"{path}.constants" d.constants
  if !(reservedAmong constants.keys).isEmpty then
    Resolved.reject (.reservedConstants s!"{path}.constants" (reservedAmong constants.keys))
  let dependencies :=
    match d.dependencies with
    | some listed => (listed.map fun k => if k = selfProperty then name else k).eraseDups
    | none => value.dependencies
  let implies ← ImpliesRule.resolve name names d.implies
  let display ←
    Resolved.settings edgeSettings (Resolved.ownExpression name) s!"{path}.display" d.display
  return {
    name, value, combiner, dependencies, implies, constants, display
    hide := d.hide
    description := d.description
    displayName := d.displayName
    usage := d.usage
    calculateWhen := d.calculateWhen
    extendTags := d.extendTags }

/-- **The node of a draft.** -/
def NodeDraft.resolve (properties nodes : List String) (id : String) (d : NodeDraft) :
    Resolved Node := do
  let path := s!"nodes.{id}"
  let values ← Resolved.numbers s!"{path}.values" d.values
  let edges ← d.edges.resolve s!"{path}.edges" properties nodes
  let display ← Resolved.settings nodeSettings Resolved.expression s!"{path}.display" d.display
  return {
    values, edges, display
    description := d.description
    displayName := d.displayName
    tags := d.tags.eraseDups }

/-- The display settings of a draft. -/
def DisplayDraft.resolve (d : DisplayDraft) : Resolved Display := do
  let node ← Resolved.settings nodeSettings Resolved.expression "display.node" d.node
  let edge ← Resolved.settings edgeSettings Resolved.expression "display.edge" d.edge
  let edgeCombiner ←
    Resolved.settings mergedEdgeSettings Resolved.expression "display.edgeCombiner"
      d.edgeCombiner
  return { node, edge, edgeCombiner }

/-- The bundles of the named libraries and a last one, merged. -/
def mergeBundles (libraries : Libraries) (names : List String) (last : Bundle) : Bundle :=
  ((names.filterMap libraries.get?).map Library.bundle ++ [last]).foldl Bundle.overlay {}

/-- **The definition of a draft.** -/
def Draft.resolve (libraries : Libraries) (d : Draft) : Resolved Definition := do
  let names ← (libraries.importOrder d.imports).mapError .rejected
  let bundle := mergeBundles libraries names d.bundle
  let properties ← bundle.properties.traverse (PropertyDraft.resolve bundle.properties.keys)
  let nodes ← d.nodes.traverse (NodeDraft.resolve properties.keys d.nodes.keys)
  let display ← bundle.display.resolve
  let scenarios ← resolveScenarios d.scenarios
  let root ← Resolved.numbers "root" bundle.root
  return {
    properties, root, nodes, scenarios, display
    version := d.version
    description := d.description
    libraries := names
    tags := bundle.tags }

/-- **The definition of a document.** -/
def Definition.ofDocument (libraries : Libraries) : Value → Resolved Definition
  | .null => Resolved.reject .absent
  | v =>
    match Draft.check v with
    | .valid d => (d.resolve libraries).mapError DraftFailure.worded
    | .invalid problems => Resolved.reject (.badShape (Problem.sorted problems))

end ValuedGraph
