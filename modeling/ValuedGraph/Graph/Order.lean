import ValuedGraph.Table

/-!
# Topological order

A graph is given by the targets of its nodes. An order is topological if every node comes
before all of its targets. The order found here emits, again and again, the node that has
been waiting longest among those without incoming edges from nodes still to come.

* `Adjacency.order`: a topological order, or the nodes that are left over.
* `Adjacency.isOrder`: whether a list is a topological order.
-/

namespace ValuedGraph

/-- **A graph as the targets of its nodes.** A target need not be listed as a node, and may be
listed several times. -/
abbrev Adjacency := Table (List String)

/-- **A graph without a topological order.** The nodes that lie on a cycle or behind one are
left over. -/
structure Cyclic where
  remaining : List String
  deriving DecidableEq, Repr

/-- The wording of a cycle. -/
def Cyclic.message : String := "Cycle detected in graph"

namespace Adjacency

/-- The targets of a node. -/
def targets (g : Adjacency) (x : String) : List String := g.getD x []

/-- The targets of all nodes, one after the other. -/
def allTargets (g : Adjacency) : List String := g.values.flatten

/-- **All nodes,** in the order in which they appear, each node before its targets. -/
def nodes (g : Adjacency) : List String :=
  (g.entries.flatMap fun e => e.1 :: e.2).eraseDups

/-- **The state of a sort:** how many edges still lead to each node, the nodes without any,
and the nodes emitted. -/
structure Sorting where
  degrees : Table Nat
  waiting : List String
  emitted : List String

/-- Every edge counts at the start, and the nodes without any are waiting. -/
def start (g : Adjacency) : Sorting :=
  let degree (x : String) : Nat := g.allTargets.count x
  { degrees := Table.ofList (g.nodes.map fun x => (x, degree x))
    waiting := g.nodes.filter fun x => degree x == 0
    emitted := [] }

/-- Removes one edge to a node, which may be the last one. -/
def release (s : Sorting) (target : String) : Sorting :=
  let degree := s.degrees.getD target 0 - 1
  { s with
    degrees := s.degrees.insert target degree
    waiting := if degree = 0 then s.waiting ++ [target] else s.waiting }

/-- Emits waiting nodes and removes their edges. Each step emits a node, so the fuel is the
number of nodes. -/
def emit (g : Adjacency) : Nat → Sorting → Sorting
  | 0, s => s
  | fuel + 1, s =>
    match s.waiting with
    | [] => s
    | x :: waiting =>
      emit g fuel ((g.targets x).foldl release { s with waiting, emitted := s.emitted ++ [x] })

/-- **A topological order of all nodes.** Without one, the nodes that cannot be emitted are
reported in the order in which they appear. -/
def order (g : Adjacency) : Except Cyclic (List String) :=
  let emitted := (g.emit g.nodes.length g.start).emitted
  match g.nodes.filter fun x => !emitted.contains x with
  | [] => .ok emitted
  | remaining => .error ⟨remaining⟩

/-- **Whether a list is a topological order:** it has every node once, and every node before
its targets. -/
def isOrder (g : Adjacency) (l : List String) : Bool :=
  l.eraseDups.length == l.length && g.nodes.all (fun x => l.contains x) &&
    l.all (fun x => g.nodes.contains x) &&
    g.entries.all fun e => e.2.all fun y => l.idxOf e.1 < l.idxOf y

end Adjacency

end ValuedGraph
