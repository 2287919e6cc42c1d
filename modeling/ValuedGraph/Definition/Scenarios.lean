import ValuedGraph.Definition.Basic
import ValuedGraph.Definition.Error
import ValuedGraph.Graph.Order

/-!
# Scenarios as written

A scenario may extend another one and then has its overrides, too. Where both override the
same value, the nearer scenario wins.

* `ScenarioDraft.ownOverlay`: the overrides that a scenario writes itself.
* `resolveScenarios`: all scenarios, each with the overrides of its parents.
-/

namespace ValuedGraph

/-- The overrides of one node at a place. -/
def Resolved.overrides (path : String) (t : Table Value) : Resolved (Table Expr) :=
  t.traverse fun property v => ownExpression property s!"{path}.{property}" v

/-- **The overrides that a scenario writes itself.** Those of the root have a place of their
own, and win over those under the root's id. -/
def ScenarioDraft.ownOverlay (name : String) (s : ScenarioDraft) : Resolved Overlay := do
  let path := s!"scenarios.{name}"
  let nodes ← s.nodes.traverse fun node t => Resolved.overrides s!"{path}.nodes.{node}" t
  if s.root.isEmpty then return nodes
  let root ← Resolved.overrides s!"{path}.root" s.root
  return nodes.insert rootId ((nodes.getD rootId ∅).overlay root)

/-- **Overrides overlaid with nearer ones,** value by value. -/
def Overlay.extend (far near : Overlay) : Overlay :=
  near.entries.foldl
    (fun o e => o.insert e.1 ((o.getD e.1 ∅).overlay e.2)) far

/-- The graph of scenarios: an edge leads from each to those that extend it. -/
def scenarioGraph (drafts : Table ScenarioDraft) : Adjacency :=
  drafts.map fun name _ =>
    (drafts.entries.filter fun e => e.2.parent == some name).map Prod.fst

/-- Checks that every scenario extends a known one. -/
def checkParents (drafts : Table ScenarioDraft) : List (String × ScenarioDraft) → Resolved Unit
  | [] => .ok ()
  | (name, s) :: rest =>
    match s.parent with
    | some parent =>
      if parent ∈ drafts then checkParents drafts rest
      else Resolved.reject (.unknownParent name parent)
    | none => checkParents drafts rest

/-- Adds the overrides of a scenario to those of the scenarios done so far, its parent among
them. Where both override the same value, the scenario itself is nearer. -/
def inherit (drafts : Table ScenarioDraft) (own done : Table Overlay) (name : String) :
    Table Overlay :=
  let inherited : Overlay :=
    match (drafts.get? name).bind ScenarioDraft.parent with
    | some parent => done.getD parent ∅
    | none => ∅
  done.insert name (inherited.extend (own.getD name ∅))

/-- **All scenarios,** each with the overrides of its parents. Parents are done before the
scenarios that extend them. -/
def resolveScenarios (drafts : Table ScenarioDraft) : Resolved (Table Scenario) := do
  let own ← drafts.traverse ScenarioDraft.ownOverlay
  checkParents drafts drafts.entries
  match (scenarioGraph drafts).order with
  | .error cyclic => Resolved.reject (.parentCycle (sortedTexts cyclic.remaining))
  | .ok order =>
    let overlays := order.foldl (inherit drafts own) ∅
    return drafts.map fun name s =>
      { name
        description := s.description
        parent := s.parent
        overlay := overlays.getD name ∅ }

end ValuedGraph
