import ValuedGraph.Expr.Evaluation
import ValuedGraph.Model.Acceptance

/-!
# Computation of one node

What is derived for a node, given the same for the nodes it refers to: its edges with the
implied ones, its tags, and its values under a scenario.

* `Model.expandedEdges`: the edges of a node.
* `Model.tagTable`: the tags of a node, for each property.
* `Model.rootTable`: the values of the root.
* `Model.valueTable`: the values of a node.
-/

namespace ValuedGraph

/-- **Why something cannot be read from a model.** -/
inductive ReadFailure where
  /-- an expression has no value -/
  | eval (failure : EvalFailure)
  /-- something that should be known by this name is not -/
  | absent (key : String)
  | unknownNode (id : String)
  | unknownScenario (name : String)
  deriving DecidableEq, Repr

/-- The wording of a failure. -/
def ReadFailure.message : ReadFailure → String
  | eval failure => failure.message
  | absent key => key
  | unknownNode id => s!"Unknown node: {quoted id}"
  | unknownScenario name => s!"Unknown scenario: {quoted name}"

/-- A computation for a node. -/
abbrev Derived (α : Type) := Traced ReadFailure α

/-- The entry of a table that has to be there. -/
def Derived.entry {α : Type} (t : Table α) (k : String) : Derived α :=
  match t.get? k with
  | some a => pure a
  | none => Traced.fail (.absent k)

/-- **The number of an expression,** whose array is reduced. -/
def Derived.reduce (c : Combiner) (e : Expr) (s : Surroundings) : Derived Float :=
  Traced.mapError .eval do
    let xs ← e.evaluate s
    Eval.numeric (c.apply xs)

/-- The items of a list under their keys, keys and items in the order of the list. -/
def groupBy {α : Type} (key : α → String) (items : List α) : Table (List α) :=
  items.foldl (fun t a => t.insert (key a) (t.getD (key a) [] ++ [a])) ∅

namespace Model

/-- The property with a name. -/
def property (m : Model) (name : String) : Derived Property :=
  Derived.entry m.definition.properties name

/-- The node with an id. -/
def node (m : Model) (id : String) : Derived Node := Derived.entry m.definition.nodes id

/-- The constants of every tag. -/
def tagConstants (m : Model) : Table (Table Float) := m.definition.tags.map fun _ t => t.constants

/-- The scenario with a name. The default one is blank. -/
def scenario (m : Model) (name : String) : Scenario :=
  m.definition.scenarios.getD name Scenario.blank

/-- The edges of a node that are written. -/
def authoredEdges (id : String) (n : Node) : List ExpandedEdge :=
  n.edges.map fun e =>
    { source := id, ref := e.target, type := e.type, constants := e.constants }

/-- The types that the edges to one ref imply, besides their own. -/
def impliedTypes (m : Model) (types : List String) : Derived (List String) := do
  let implied ← types.mapM fun t => return (← m.property t).implies
  return implied.flatten.eraseDups.filter fun t => !types.contains t

/-- The implied edges of a node to one ref. -/
def impliedEdges (m : Model) (id ref : String) (authored : List ExpandedEdge) :
    Derived (List ExpandedEdge) := do
  let types := (authored.map ExpandedEdge.type).eraseDups
  (← m.impliedTypes types).mapM fun type => do
    let p ← m.property type
    return { source := id, ref, type, constants := p.constants, implied := true }

/-- **The edges of a node:** those that are written, then the implied ones, ref by ref. Implied
edges imply no others. -/
def expandedEdges (m : Model) (id : String) : Derived (List ExpandedEdge) := do
  let authored := authoredEdges id (← m.node id)
  let groups := groupBy ExpandedEdge.ref authored
  let implied ← groups.entries.mapM fun (ref, edges) => m.impliedEdges id ref edges
  return authored ++ implied.flatten

/-- The tags of a node for one property: its own, and those of its refs along edges of the
property's type if the property extends tags. -/
def tagsFor (own : List String) (edges : List ExpandedEdge)
    (known : Table (Table TagMembership)) (name : String) (p : Property) :
    Derived TagMembership := do
  if !p.extendTags then return ⟨own, own⟩
  let along := edges.filter fun e => e.type == name && e.ref != rootId
  let inherited ← along.mapM fun e => do
    return (← Derived.entry (← Derived.entry known e.ref) name).all
  return ⟨own, inherited.foldl unionNames own⟩

/-- **The tags of a node,** for each property, given those of the nodes it refers to. -/
def tagTable (m : Model) (id : String) (edges : List ExpandedEdge)
    (known : Table (Table TagMembership)) : Derived (Table TagMembership) := do
  let n ← m.node id
  m.definition.properties.traverse (tagsFor n.tags edges known)

/-- The tags of the root: none. -/
def rootTags (m : Model) : Table TagMembership := m.definition.properties.map fun _ _ => {}

/-- The only number of a fixed array of one number. -/
def plainNumber? : Expr → Option Float
  | .literal [x] => some x
  | _ => none

theorem plainNumber?_eq_some {e : Expr} {x : Float} :
    plainNumber? e = some x ↔ e = .literal [x] := by
  constructor
  · intro h
    unfold plainNumber? at h
    split at h
    · rw [Option.some.inj h]
    · cases h
  · rintro rfl
    rfl

/-- **The value of an override.** A plain number is the value; any other expression is
reduced as the property's own would be. -/
def overridden (m : Model) (name : String) (e : Expr) (s : Surroundings) : Derived Float :=
  match plainNumber? e with
  | some x => pure x
  | none => do
    let p ← m.property name
    Derived.reduce p.combiner e { s with tagConstants := m.tagConstants }

/-- Applies one override to the values of the root. The expression sees the values so far,
as those of the root and as those of its own node. -/
def overrideRoot (m : Model) (values : Table Float) (e : String × Expr) :
    Derived (Table Float) := do
  let base ← Derived.entry values e.1
  let x ← m.overridden e.1 e.2 { root := values, results := values, input := some [base] }
  return values.insert e.1 x

/-- **The values of the root:** zero, overlaid by those that are given and by the overrides of
the scenario in the order in which they are written. -/
def rootTable (m : Model) (s : Scenario) : Derived (Table Float) :=
  let given := (m.definition.properties.map fun _ _ => 0.0).overlay m.definition.root
  (s.overrides rootId).entries.foldlM m.overrideRoot given

/-- **What the values of a node are computed from.** -/
structure Inputs where
  node : Node
  edges : List ExpandedEdge
  tags : Table TagMembership
  overrides : Table Expr
  /-- the values of the root -/
  root : Table Float
  /-- the values of the nodes that edges lead to -/
  known : Table (Table Float)

/-- The values of the node that an edge leads to. -/
def Inputs.refValues (i : Inputs) (ref : String) : Derived (Table Float) :=
  if ref = rootId then pure i.root else Derived.entry i.known ref

/-- What the expressions for some edges of a node see, given the values so far. -/
def surroundings (m : Model) (i : Inputs) (p : Property) (typed : List ExpandedEdge)
    (tags : TagMembership) (results : Table Float) : Derived Surroundings := do
  let refs ← typed.mapM fun e => i.refValues e.ref
  return {
    refs, tags, results
    edges := typed.map fun e => e.constantsOver p.constants
    root := i.root
    tagConstants := m.tagConstants }

/-- **The value of a property without overrides:** its expression reduced over the edges of
its type. A node without such edges takes the value of the root, unless the property is
always computed. -/
def baseValue (m : Model) (i : Inputs) (name : String) (p : Property) (tags : TagMembership)
    (results : Table Float) : Derived Float := do
  let typed := i.edges.filter fun e => e.type == name
  if typed.isEmpty && p.calculateWhen == .edges then Derived.entry i.root name
  else Derived.reduce p.combiner p.value (← m.surroundings i p typed tags results)

/-- **The value of a property of a node:** the one that is given, else that of an override,
else that of the property's expression. The expression is left out if an override does not
read its value. -/
def valueOf (m : Model) (i : Inputs) (results : Table Float) (name : String) :
    Derived Float :=
  match i.node.values.get? name with
  | some x => pure x
  | none => do
    let p ← m.property name
    let tags ← Derived.entry i.tags name
    match i.overrides.get? name with
    | none => m.baseValue i name p tags results
    | some e =>
      let input ←
        if e.readsInput then do
          let base ← m.baseValue i name p tags results
          pure (some [base])
        else pure none
      m.overridden name e { root := i.root, results, input, tags }

/-- Computes one more value. -/
def addValue (m : Model) (i : Inputs) (results : Table Float) (name : String) :
    Derived (Table Float) := do
  return results.insert name (← m.valueOf i results name)

/-- **The values of a node,** each property after those it depends on. -/
def valueTable (m : Model) (i : Inputs) : Derived (Table Float) :=
  m.propertyOrder.foldlM (m.addValue i) ∅

end Model

end ValuedGraph
