import Mathlib.Data.List.Perm.Subperm
import ValuedGraph.Proofs.Graph.Reachability

/-!
# Orders are found

A sort comes to its end: there is fuel for every node, so nothing is waiting then. What is left
over still has edges from nodes that are left over, which an ordered list rules out. Whether an
order is found therefore depends on the edges alone, not on the order in which they are given.

* `Adjacency.waiting_emit`: at the end of a sort, nothing is waiting.
* `Adjacency.exists_order`: **a graph with an ordered list of its nodes** has an order that is
  found.
* `Digraph.exists_order`: the same for graphs of edges.
* `Adjacency.exists_order_of_get?`, `Digraph.exists_order_of_mem`: **whether an order is found** does
  not depend on how a graph is listed.
-/

namespace ValuedGraph

namespace Adjacency

variable {g : Adjacency} {x y : String}

/-- Emitted and waiting nodes are not more than there are. -/
theorem SortOK.length_le {s : Sorting} (hs : SortOK g s) :
    s.emitted.length + s.waiting.length ≤ g.nodes.length := by
  rw [← List.length_append]
  exact (hs.nodup.subperm hs.nodes).length_le

/-- **At the end of a sort, nothing is waiting,** if there is fuel for all nodes to come. -/
theorem waiting_emit (fuel : ℕ) : ∀ {s : Sorting}, SortOK g s →
    g.nodes.length ≤ s.emitted.length + fuel → (g.emit fuel s).waiting = [] := by
  induction fuel with
  | zero =>
    intro s hs hfuel
    have hle := hs.length_le
    exact List.eq_nil_of_length_eq_zero (by simp only [emit]; omega)
  | succ fuel ih =>
    intro s hs hfuel
    unfold emit
    split
    · assumption
    · rename_i x waiting hw
      refine ih (sortOK_step hs hw) ?_
      rw [emitted_foldl_release, List.length_append, List.length_singleton]
      omega

/-- Without edges from nodes to come, the degree is zero. -/
theorem degree_eq_zero {emitted : List String} (h : ∀ x, y ∈ g.targets x → x ∈ emitted) :
    g.degree emitted y = 0 := by
  refine List.sum_eq_zero_iff_forall_eq_nat.2 fun n hn => ?_
  obtain ⟨e, he, rfl⟩ := List.mem_map.1 hn
  split
  · rfl
  · rename_i hx
    exact List.count_eq_zero.2 fun hy => hx (h e.1 (mem_targets.2 ⟨e.2, he, hy⟩))

/-- The source of an edge is a node. -/
theorem mem_nodes_of_mem_targets (h : y ∈ g.targets x) : x ∈ g.nodes := by
  obtain ⟨ts, hts, -⟩ := mem_targets.1 h
  exact mem_nodes.2 (Or.inl (List.mem_map_of_mem (f := Prod.fst) hts))

/-- **A graph with an ordered list of its nodes** has an order that is found. -/
theorem exists_order {l : List String} (hl : g.Ordered l) (hmem : ∀ y ∈ g.nodes, y ∈ l) :
    ∃ l', g.order = .ok l' := by
  have hs := sortOK_emit (g := g) g.nodes.length (sortOK_start g)
  have hwaiting := waiting_emit (g := g) g.nodes.length (sortOK_start g) (Nat.le_add_left _ _)
  -- along the list: all nodes that lead to a node are emitted, so the node is free
  have key : ∀ y ∈ l, y ∈ g.nodes → y ∈ (g.emit g.nodes.length g.start).emitted := by
    refine forall_mem_of_prefix fun before y after hsplit hbefore hy => ?_
    have hfree := (hs.free y hy).2 (degree_eq_zero fun x hx =>
      hbefore x (hl before y after hsplit x hx) (mem_nodes_of_mem_targets hx))
    rwa [hwaiting, List.append_nil] at hfree
  have hnil : (g.nodes.filter fun x =>
      !(g.emit g.nodes.length g.start).emitted.contains x) = [] := by
    refine List.filter_eq_nil_iff.2 fun y hy => ?_
    simpa using key y (hmem y hy) hy
  refine ⟨(g.emit g.nodes.length g.start).emitted, ?_⟩
  simp only [order, hnil]

/-- **Whether an order is found** does not depend on how the nodes are listed. -/
theorem exists_order_of_get? {g' : Adjacency} (h : ∀ x, g.get? x = g'.get? x) {l : List String}
    (hl : g.order = .ok l) : ∃ l', g'.order = .ok l' := by
  have htargets : ∀ x, g.targets x = g'.targets x := fun x => by
    rw [targets, targets, Table.getD, Table.getD, h]
  obtain ⟨-, hmem, hord⟩ := order_ok hl
  refine exists_order (l := l) (fun before y after hsplit x hx => ?_) fun y hy => ?_
  · exact hord before y after hsplit x (htargets x ▸ hx)
  · rw [hmem, mem_nodes, ← Table.mem_iff, ← Table.get?_isSome_iff, h, Table.get?_isSome_iff,
      Table.mem_iff]
    simp only [htargets]
    exact mem_nodes.1 hy

end Adjacency

namespace Digraph

variable {edges : List (String × String)} {nodes : List String}

/-- The targets of a node in a graph of edges. -/
theorem mem_targets_ofEdges {x y : String} :
    y ∈ (ofEdges edges nodes).adjacency.targets x ↔ (x, y) ∈ edges := by
  have hnodes : (ofEdges edges nodes).nodes.Nodup := nodup_eraseDups _
  by_cases hx : x ∈ (ofEdges edges nodes).nodes
  · rw [targets_adjacency hnodes hx, mem_successors, mem_edges_ofEdges]
  · -- what is not a node has no edges
    have hnone : (x, y) ∉ edges := fun he =>
      hx (mem_nodes_ofEdges.2 (Or.inr ⟨_, he, Or.inl rfl⟩))
    have hget : (ofEdges edges nodes).adjacency.get? x = none := by
      rw [Table.get?_eq_none_iff, Table.mem_iff, Table.keys, adjacency,
        Table.entries_ofList (by simpa [Function.comp_def] using hnodes)]
      simpa [Function.comp_def] using hx
    simp [Adjacency.targets, Table.getD, hget, hnone]

/-- **A graph of edges with a list of its nodes** in which the source of every edge stands in
front of its end has an order that is found. -/
theorem exists_order {l : List String}
    (hmem : ∀ x, x ∈ nodes ∨ (∃ e ∈ edges, x = e.1 ∨ x = e.2) → x ∈ l)
    (hord : ∀ before y after, l = before ++ y :: after → ∀ x, (x, y) ∈ edges → x ∈ before) :
    ∃ l', (ofEdges edges nodes).order = .ok l' := by
  have hnodes : (ofEdges edges nodes).nodes.Nodup := nodup_eraseDups _
  refine Adjacency.exists_order (l := l) ?_ fun y hy => ?_
  · intro before y after hl x hx
    exact hord before y after hl x (mem_targets_ofEdges.1 hx)
  · rcases Adjacency.mem_nodes.1 hy with hy | ⟨x, hx⟩
    · refine hmem y (mem_nodes_ofEdges.1 ?_)
      rwa [Table.keys, adjacency, Table.entries_ofList
        (by simpa [Function.comp_def] using hnodes), List.map_map, Function.comp_def,
        List.map_id'] at hy
    · exact hmem y (Or.inr ⟨_, mem_targets_ofEdges.1 hx, Or.inr rfl⟩)

/-- **Whether an order is found** does not depend on how edges and nodes are listed. -/
theorem exists_order_of_mem {edges' : List (String × String)} {nodes' : List String}
    (hedges : ∀ e, e ∈ edges ↔ e ∈ edges') (hnodes : ∀ x, x ∈ nodes ↔ x ∈ nodes') {l : List String}
    (hl : (ofEdges edges nodes).order = .ok l) : ∃ l', (ofEdges edges' nodes').order = .ok l' := by
  obtain ⟨-, hmem, hord⟩ := order_ok hl
  refine exists_order (l := l) (fun x hx => ?_) fun before y after hsplit x hx => ?_
  · simpa only [hmem, hedges, hnodes] using hx
  · exact hord before y after hsplit x ((hedges _).2 hx)

end Digraph

end ValuedGraph
