import ValuedGraph.Model.Computation

/-!
# Drawing

How a renderer draws a node and its edges: plain numbers, packed colors among them. Edges of
one type to one ref form a group, whose display settings give one entry for each edge or one
for all of them. The entries of a ref that are not distinct are drawn as one edge.

* `bumpPositions`: the places of several edges side by side.
* `Model.drawnEdges`: the edges of a node as they are drawn.
* `Model.drawNode`: a node as it is drawn.
-/

namespace ValuedGraph

/-- **An edge as it is drawn,** and the edges it stands for. -/
structure DrawnEdge where
  source : String
  parent : String
  width : Float
  /-- the packed color -/
  color : Float
  opacity : Float
  /-- the place among the edges to the same parent; a half is the middle -/
  bump : Float
  edges : List ExpandedEdge

/-- **A node as it is drawn.** -/
structure DrawnNode where
  radius : Float
  color : Float
  opacity : Float
  strokeWidth : Float
  strokeColor : Float
  strokeOpacity : Float

/-- Opaque black, packed. -/
def packedBlack : Float := 255.0

/-- The preferred distance of edges side by side. -/
def bumpSpacing : Float := 0.05

/-- **The places of several edges side by side,** spread around a half. They move closer
together if they would not fit between zero and one. -/
def bumpPositions (count : Nat) : List Float :=
  if count ≤ 1 then List.replicate count 0.5
  else
    let gaps := Float.ofNat (count - 1)
    let spacing := if 1.0 < gaps * bumpSpacing then 1.0 / gaps else bumpSpacing
    let offset := gaps / 2.0
    (List.range count).map fun i => roundPlaces 12 (0.5 + (Float.ofNat i - offset) * spacing)

/-- Edges of one type to one ref, with what their display settings are evaluated in. -/
structure EdgeGroup where
  edges : List ExpandedEdge
  display : Table Expr
  surroundings : Surroundings

/-- **An entry of a group:** how some of its edges would be drawn. -/
structure DrawEntry where
  width : Float
  color : Float
  opacity : Float
  edges : List ExpandedEdge

/-- The array of a display setting, or the number that stands for its absence. -/
def settingArray (display : Table Expr) (s : Surroundings) (name : String) (absent : Float) :
    Eval (List Float) :=
  match display.get? name with
  | some e => e.evaluate s
  | none => pure [absent]

/-- The first number of a display setting. -/
def settingNumber (display : Table Expr) (s : Surroundings) (name : String) (absent : Float) :
    Eval Float :=
  return slot (← settingArray display s name absent) 0

namespace EdgeGroup

/-- **The entries of a group,** and whether each of them is distinct. As many entries as edges
stand for one edge each; otherwise every entry stands for all of them. -/
def entries (g : EdgeGroup) : Eval (List (DrawEntry × Bool)) := do
  let widths ← settingArray g.display g.surroundings "width" 1.0
  let colors ← settingArray g.display g.surroundings "color" packedBlack
  let opacities ← settingArray g.display g.surroundings "opacity" 1.0
  let distincts ← settingArray g.display g.surroundings "distinct" 0.0
  let count := max (max widths.length colors.length) (max opacities.length distincts.length)
  let perEdge := count == g.edges.length
  return (List.range count).map fun i =>
    ({ width := slot widths i
       color := slot colors i
       opacity := slot opacities i
       edges := if perEdge then g.edges[i]?.toList else g.edges },
     isTrue (slot distincts i))

end EdgeGroup

/-- **Several entries drawn as one:** their numbers are the input of the settings for merged
edges. -/
def mergeEntries (display : Table Expr) (s : Surroundings) (entries : List DrawEntry) :
    Eval DrawEntry := do
  let merged (name : String) (number : DrawEntry → Float) (absent : Float) : Eval Float :=
    settingNumber display { s with input := some (entries.map number) } name absent
  let width ← merged "width" DrawEntry.width 1.0
  let color ← merged "color" DrawEntry.color packedBlack
  let opacity ← merged "opacity" DrawEntry.opacity 1.0
  return { width, color, opacity, edges := entries.flatMap DrawEntry.edges }

/-- **The edges drawn to one ref:** one for all entries that are not distinct, then one for
each other entry. Edges without a width are not drawn. -/
def drawToRef (source ref : String) (groups : List EdgeGroup) (display : Table Expr)
    (s : Surroundings) : Eval (List DrawnEdge) := do
  let entries := (← groups.mapM EdgeGroup.entries).flatten
  let distinct := (entries.filter fun e => e.2).map Prod.fst
  let mergeable := (entries.filter fun e => !e.2).map Prod.fst
  let merged ←
    if mergeable.isEmpty then pure []
    else do pure [← mergeEntries display s mergeable]
  let drawn := (merged ++ distinct).filter fun e => decide (0.0 < e.width)
  return (drawn.zip (bumpPositions drawn.length)).map fun (e, bump) =>
    { source, bump
      parent := ref
      width := e.width
      color := e.color
      opacity := e.opacity
      edges := e.edges }

namespace Model

/-- The group of a node's edges of one type to one ref. -/
def edgeGroup (m : Model) (i : Inputs) (results : Table Float) (type : String)
    (edges : List ExpandedEdge) : Derived EdgeGroup := do
  let p ← m.property type
  let tags ← Derived.entry i.tags type
  let surroundings ← m.surroundings i p edges tags results
  return { edges, surroundings, display := m.definition.edgeDisplay p }

/-- **The edges of a node as they are drawn,** given its values. -/
def drawnEdges (m : Model) (id : String) (i : Inputs) (results : Table Float) :
    Derived (List DrawnEdge) := do
  let refs := groupBy ExpandedEdge.ref i.edges
  let groups ← refs.entries.mapM fun (ref, edges) => do
    let types := groupBy ExpandedEdge.type edges
    return (ref, ← types.entries.mapM fun (type, typed) => m.edgeGroup i results type typed)
  let s : Surroundings := { root := i.root, results, tagConstants := m.tagConstants }
  let drawn ← groups.mapM fun (ref, groups) =>
    Traced.mapError .eval (drawToRef id ref groups m.definition.display.edgeCombiner s)
  return drawn.flatten

/-- **A node as it is drawn,** given its values and its tags. -/
def drawNode (m : Model) (n : Node) (root results : Table Float) (tags : TagMembership) :
    Derived DrawnNode := Traced.mapError .eval do
  let display := m.definition.nodeDisplay n
  let s : Surroundings := { root, results, tags, tagConstants := m.tagConstants }
  let radius ← settingNumber display s "radius" 6.0
  let color ← settingNumber display s "color" packedBlack
  let opacity ← settingNumber display s "opacity" 1.0
  let strokeWidth ← settingNumber display s "strokeWidth" 0.0
  let strokeColor ← settingNumber display s "strokeColor" packedBlack
  let strokeOpacity ← settingNumber display s "strokeOpacity" 1.0
  return { radius, color, opacity, strokeWidth, strokeColor, strokeOpacity }

end Model

end ValuedGraph
