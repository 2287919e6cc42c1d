import ValuedGraph.Graph.Order

/-!
# Directed graphs

A directed graph of dependencies: an edge leads from a node to one that depends on it.

* `Digraph.predecessors`, `Digraph.successors`: the two ends of the edges.
* `Digraph.ancestors`, `Digraph.descendants`: what a node depends on, and what depends on it,
  through any number of edges but none.
* `Digraph.order`: the nodes, each after those it depends on.
-/

namespace ValuedGraph

/-- **A directed graph.** The nodes are listed once each, and so are the edges. -/
structure Digraph where
  nodes : List String
  edges : List (String × String)
  deriving Repr

/-- **What can be reached** from the nodes on a stack, going through nodes that are not seen
yet. Each step takes a node off the stack. -/
def reach (next : String → List String) : Nat → List String → List String → List String
  | 0, seen, _ => seen
  | _, seen, [] => seen
  | fuel + 1, seen, x :: stack =>
    if seen.contains x then reach next fuel seen stack
    else reach next fuel (x :: seen) (next x ++ stack)

namespace Digraph

/-- The graph of a list of edges, with further nodes. -/
def ofEdges (edges : List (String × String)) (nodes : List String) : Digraph where
  nodes := (nodes ++ edges.flatMap fun e => [e.1, e.2]).eraseDups
  edges := edges.eraseDups

/-- The nodes that a node depends on directly. -/
def predecessors (g : Digraph) (x : String) : List String :=
  g.edges.filterMap fun e => if e.2 = x then some e.1 else none

/-- The nodes that depend on a node directly. -/
def successors (g : Digraph) (x : String) : List String :=
  g.edges.filterMap fun e => if e.1 = x then some e.2 else none

/-- What is reached from a node in one direction. Every edge is put on the stack at most once
in the search, and once more at its start. -/
def reachFrom (g : Digraph) (next : String → List String) (x : String) : List String :=
  reach next (2 * g.edges.length) [] (next x)

/-- **All nodes that a node depends on,** directly or not. -/
def ancestors (g : Digraph) (x : String) : List String := g.reachFrom g.predecessors x

/-- **All nodes that depend on a node,** directly or not. -/
def descendants (g : Digraph) (x : String) : List String := g.reachFrom g.successors x

/-- The graph as the targets of its nodes. -/
def adjacency (g : Digraph) : Adjacency :=
  Table.ofList (g.nodes.map fun x => (x, g.successors x))

/-- **The nodes, each after all it depends on.** -/
def order (g : Digraph) : Except Cyclic (List String) := g.adjacency.order

/-- Whether some node depends on itself. -/
def hasCycle (g : Digraph) : Bool :=
  match g.order with
  | .ok _ => false
  | .error _ => true

/-- Whether a node is in the graph. -/
def contains (g : Digraph) (x : String) : Bool := g.nodes.contains x

end Digraph

end ValuedGraph
