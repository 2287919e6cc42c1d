import ValuedGraph.Proofs.Graph.Cycles

/-!
# What a graph of dependencies answers

A graph is given by pairs of a node and one that depends on it, and by further nodes. All that can
be asked of it can be told from the pairs: who stands at the other end of an edge or of a path,
whether there is a cycle, and an order if there is none. Two computations of their own agree on
cycles: the search for ancestors, and the sort, which goes along the edges.

* `Digraph.hasCycle_iff`: **a graph has a cycle** if some node is its own ancestor, and only then.
* `Digraph.hasCycle_eq_false`: without a cycle there is an order.
* `Digraph.queries_follow_paths`: **all queries.**
-/

namespace ValuedGraph

open Relation

namespace Digraph

variable {edges : List (String × String)} {nodes : List String} {x y : String}

/-- The ancestors of a node in a graph of edges. -/
theorem mem_ancestors_ofEdges : x ∈ (ofEdges edges nodes).ancestors y ↔
    TransGen (fun a b => (a, b) ∈ edges) x y := by
  simp only [mem_ancestors, mem_edges_ofEdges]

/-- The descendants of a node in a graph of edges. -/
theorem mem_descendants_ofEdges : y ∈ (ofEdges edges nodes).descendants x ↔
    TransGen (fun a b => (a, b) ∈ edges) x y := by
  simp only [mem_descendants, mem_edges_ofEdges]

/-- A graph has no cycle if an order is found. -/
theorem hasCycle_eq_false {g : Digraph} : g.hasCycle = false ↔ ∃ l, g.order = .ok l := by
  unfold hasCycle
  cases g.order <;> simp

/-- A graph of edges has no cycle if no node is its own ancestor. -/
theorem hasCycle_eq_false_iff : (ofEdges edges nodes).hasCycle = false ↔
    ∀ x, x ∉ (ofEdges edges nodes).ancestors x := by
  have hleads : (ofEdges edges nodes).adjacency.Leads = fun a b => (a, b) ∈ edges := by
    funext a b
    exact propext mem_targets_ofEdges
  rw [hasCycle_eq_false, order, Adjacency.exists_order_iff, Adjacency.Acyclic, hleads]
  simp only [mem_ancestors_ofEdges]

/-- **A graph has a cycle if some node is its own ancestor,** and only then. -/
theorem hasCycle_iff : (ofEdges edges nodes).hasCycle = true ↔
    ∃ x, x ∈ (ofEdges edges nodes).ancestors x := by
  rw [← Bool.not_eq_false, hasCycle_eq_false_iff]
  push Not
  rfl

/-- **What a graph of dependencies answers.** Its nodes are those that are mentioned. The
predecessors and the successors of a node are at the other ends of its edges. Its ancestors and its
descendants are at the other ends of paths of one or more edges, once each; the searches for them
come to their ends, whether or not there are cycles. There is a cycle if some node is its own
ancestor, and only then; and otherwise there is an order that has every node once, each behind all
that it depends on. -/
theorem queries_follow_paths (edges : List (String × String)) (nodes : List String) :
    let g := ofEdges edges nodes
    let Path := TransGen fun a b => (a, b) ∈ edges
    (g.nodes.Nodup ∧ ∀ x, x ∈ g.nodes ↔ x ∈ nodes ∨ ∃ e ∈ edges, x = e.1 ∨ x = e.2) ∧
    (∀ a b, (a ∈ g.predecessors b ↔ (a, b) ∈ edges) ∧ (b ∈ g.successors a ↔ (a, b) ∈ edges)) ∧
    (∀ a b, (a ∈ g.ancestors b ↔ Path a b) ∧ (b ∈ g.descendants a ↔ Path a b)) ∧
    (∀ x, (g.ancestors x).Nodup ∧ Searches g.predecessors [] (g.predecessors x) (g.ancestors x) ∧
      (g.descendants x).Nodup ∧ Searches g.successors [] (g.successors x) (g.descendants x)) ∧
    (g.hasCycle = true ↔ ∃ x, x ∈ g.ancestors x) ∧
    (g.hasCycle = false → ∃ l, g.order = .ok l ∧ l.Nodup ∧ (∀ x, x ∈ l ↔ x ∈ g.nodes) ∧
      ∀ before b after, l = before ++ b :: after → ∀ a, (a, b) ∈ edges → a ∈ before) := by
  intro g Path
  have hnodes : ∀ x, x ∈ g.nodes ↔ x ∈ nodes ∨ ∃ e ∈ edges, x = e.1 ∨ x = e.2 := fun _ =>
    mem_nodes_ofEdges
  have hup := g.searches_ancestors
  have hdown := g.searches_descendants
  refine ⟨⟨nodup_eraseDups _, hnodes⟩, fun a b => ⟨?_, ?_⟩,
    fun a b => ⟨mem_ancestors_ofEdges, mem_descendants_ofEdges⟩, fun x => ?_, hasCycle_iff, ?_⟩
  · rw [mem_predecessors, mem_edges_ofEdges]
  · rw [mem_successors, mem_edges_ofEdges]
  · exact ⟨(hup x).nodup List.nodup_nil, hup x, (hdown x).nodup List.nodup_nil, hdown x⟩
  · intro hcycle
    obtain ⟨l, hl⟩ := hasCycle_eq_false.1 hcycle
    obtain ⟨hnodup, hmem, hbefore⟩ := order_ok hl
    exact ⟨l, hl, hnodup, fun x => (hmem x).trans (hnodes x).symm, hbefore⟩

/-- Two brooks that join, next to a pond, and the order of the waters; and a whirl behind a brook,
both of whose waters are their own ancestors. -/
theorem queries_follow_paths_waters :
    let brooks := ofEdges [("left", "river"), ("right", "river"), ("river", "sea")] ["pond"]
    let whirl := ofEdges [("brook", "in"), ("in", "out"), ("out", "in"), ("out", "out")] []
    (brooks.hasCycle = false ∧ ∃ l, brooks.order = .ok l ∧ l.Nodup ∧
      (∀ x, x ∈ l ↔ x ∈ brooks.nodes) ∧ ∀ before b after, l = before ++ b :: after →
        ∀ a, (a, b) ∈ [("left", "river"), ("right", "river"), ("river", "sea")] → a ∈ before) ∧
    (whirl.hasCycle = true ∧ ∃ x, x ∈ whirl.ancestors x) := by
  intro brooks whirl
  obtain ⟨-, -, -, -, -, horder⟩ := queries_follow_paths
    [("left", "river"), ("right", "river"), ("river", "sea")] ["pond"]
  obtain ⟨-, -, -, -, hself, -⟩ := queries_follow_paths
    [("brook", "in"), ("in", "out"), ("out", "in"), ("out", "out")] []
  have hbrooks : brooks.hasCycle = false := by decide +kernel
  have hwhirl : whirl.hasCycle = true := by decide +kernel
  exact ⟨⟨hbrooks, horder hbrooks⟩, hwhirl, hself.1 hwhirl⟩

end Digraph

end ValuedGraph
