import Mathlib.Logic.Relation
import ValuedGraph.Graph.Digraph
import ValuedGraph.Proofs.Graph.Order

/-!
# Reachability in a directed graph

A search takes nodes off a stack and puts their neighbours on it. Every node is expanded once,
so the neighbours that are still to be put on the stack bound the steps to come, and the fuel
of `Digraph.reachFrom` is never used up.

* `Searches`: a search that comes to its end, without a bound on its steps.
* `searches_reach`: **with fuel enough, a search comes to its end.**
* `Searches.sound`, `Searches.closed`, `Searches.nodup`: what is found comes from the stack, is closed,
  and is found once.
* `Digraph.mem_ancestors`, `Digraph.mem_descendants`: **ancestors and descendants are the
  transitive closure** of the edges.
* `Digraph.order_ok`: an order of a graph of edges has every node once, each after those it
  depends on.
-/

namespace ValuedGraph

open Relation

variable {next : String → List String}

/-- **A search that comes to its end.** A node that was seen before is dropped, and any other one
makes room for its neighbours, until the stack is empty. -/
inductive Searches (next : String → List String) :
    List String → List String → List String → Prop where
  | done (seen : List String) : Searches next seen [] seen
  | drop {seen stack found : List String} {x : String} (hx : x ∈ seen)
      (h : Searches next seen stack found) : Searches next seen (x :: stack) found
  | expand {seen stack found : List String} {x : String} (hx : x ∉ seen)
      (h : Searches next (x :: seen) (next x ++ stack) found) :
      Searches next seen (x :: stack) found

/-- **With fuel enough, a search comes to its end.** `left seen` bounds the neighbours that nodes
not seen yet may still put on the stack. -/
theorem searches_reach (left : List String → ℕ)
    (hleft : ∀ seen x, x ∉ seen → left (x :: seen) + (next x).length ≤ left seen) (fuel : ℕ) :
    ∀ seen stack : List String, stack.length + left seen ≤ fuel →
      Searches next seen stack (reach next fuel seen stack) := by
  induction fuel with
  | zero =>
    intro seen stack hfuel
    obtain rfl : stack = [] := List.eq_nil_of_length_eq_zero (by omega)
    exact .done seen
  | succ fuel ih =>
    intro seen stack hfuel
    cases stack with
    | nil => exact .done seen
    | cons x stack =>
      simp only [List.length_cons] at hfuel
      simp only [reach]
      split
      · rename_i hx
        exact .drop (by simpa using hx) (ih seen stack (by omega))
      · -- a new node pays for its neighbours, which are bounded by what is left
        rename_i hx
        have hx : x ∉ seen := by simpa using hx
        have hless := hleft seen x hx
        refine .expand hx (ih (x :: seen) (next x ++ stack) ?_)
        rw [List.length_append]
        omega

namespace Searches

variable {seen stack found : List String}

/-- Whatever is found comes from the nodes seen before or is reached from the stack. -/
theorem sound (h : Searches next seen stack found) {y : String} (hy : y ∈ found) :
    y ∈ seen ∨ ∃ x ∈ stack, ReflTransGen (fun a b => b ∈ next a) x y := by
  induction h with
  | done => exact Or.inl hy
  | drop _ _ ih =>
    rcases ih hy with h | ⟨z, hz, hzy⟩
    · exact Or.inl h
    · exact Or.inr ⟨z, List.mem_cons_of_mem _ hz, hzy⟩
  | expand _ _ ih =>
    rcases ih hy with h | ⟨z, hz, hzy⟩
    · rcases List.mem_cons.1 h with rfl | h
      · exact Or.inr ⟨y, by simp, ReflTransGen.refl⟩
      · exact Or.inl h
    · rcases List.mem_append.1 hz with hz | hz
      · exact Or.inr ⟨_, by simp, ReflTransGen.head hz hzy⟩
      · exact Or.inr ⟨z, List.mem_cons_of_mem _ hz, hzy⟩

/-- **What is found contains the stack and is closed,** if the neighbours of what was seen before
are seen or on the stack. -/
theorem closed (h : Searches next seen stack found)
    (hcl : ∀ y ∈ seen, ∀ z ∈ next y, z ∈ seen ∨ z ∈ stack) :
    (∀ y, y ∈ seen ∨ y ∈ stack → y ∈ found) ∧ ∀ y ∈ found, ∀ z ∈ next y, z ∈ found := by
  induction h with
  | done => simpa using hcl
  | @drop seen stack found x hx _ ih =>
    have hmem : ∀ y, y ∈ seen ∨ y ∈ x :: stack → y ∈ seen ∨ y ∈ stack := by
      rintro y (hy | hy)
      · exact Or.inl hy
      · rcases List.mem_cons.1 hy with rfl | hy
        · exact Or.inl hx
        · exact Or.inr hy
    obtain ⟨h1, h2⟩ := ih fun y hy z hz => hmem z (hcl y hy z hz)
    exact ⟨fun y hy => h1 y (hmem y hy), h2⟩
  | @expand seen stack found x _ _ ih =>
    have hmem : ∀ y, y ∈ seen ∨ y ∈ x :: stack → y ∈ x :: seen ∨ y ∈ next x ++ stack := by
      rintro y (hy | hy)
      · exact Or.inl (List.mem_cons_of_mem _ hy)
      · rcases List.mem_cons.1 hy with rfl | hy
        · exact Or.inl (by simp)
        · exact Or.inr (List.mem_append_right _ hy)
    obtain ⟨h1, h2⟩ := ih fun y hy z hz => by
      rcases List.mem_cons.1 hy with rfl | hy
      · exact Or.inr (List.mem_append_left _ hz)
      · exact hmem z (hcl y hy z hz)
    exact ⟨fun y hy => h1 y (hmem y hy), h2⟩

/-- **Nothing is found twice.** -/
theorem nodup (h : Searches next seen stack found) (hseen : seen.Nodup) : found.Nodup := by
  induction h with
  | done => exact hseen
  | drop _ _ ih => exact ih hseen
  | expand hx _ ih => exact ih (List.nodup_cons.2 ⟨hx, hseen⟩)

end Searches

namespace Digraph

variable {g : Digraph} {x y : String}

theorem mem_predecessors : x ∈ g.predecessors y ↔ (x, y) ∈ g.edges := by
  unfold predecessors
  rw [List.mem_filterMap]
  constructor
  · rintro ⟨⟨a, b⟩, he, h⟩
    split at h <;> simp_all
  · intro h
    exact ⟨(x, y), h, by simp⟩

theorem mem_successors : y ∈ g.successors x ↔ (x, y) ∈ g.edges := by
  unfold successors
  rw [List.mem_filterMap]
  constructor
  · rintro ⟨⟨a, b⟩, he, h⟩
    split at h <;> simp_all
  · intro h
    exact ⟨(x, y), h, by simp⟩

/-- An edge leaves the edges of nodes not seen when its node is seen, and it does so once. -/
theorem length_unseen (key : String × String → String) (edges : List (String × String))
    {seen : List String} {z : String} (hz : z ∉ seen) :
    (edges.filter fun e => key e ∉ z :: seen).length + (edges.filter fun e => key e = z).length ≤
      (edges.filter fun e => key e ∉ seen).length := by
  simp only [← List.countP_eq_length_filter]
  induction edges with
  | nil => simp
  | cons e edges ih =>
    simp only [List.countP_cons, List.mem_cons] at ih ⊢
    by_cases h1 : key e = z
    · simp only [h1, hz, true_or, not_true, decide_false, decide_true, not_false_eq_true, if_true,
        Bool.false_eq_true, if_false]
      omega
    · by_cases h2 : key e ∈ seen
      · simp only [h1, h2, or_true, not_true, decide_false, Bool.false_eq_true, if_false]
        omega
      · simp only [h1, h2, or_self, not_false_eq_true, decide_true, decide_false, if_true,
          Bool.false_eq_true, if_false]
        omega

/-- **A search from a node comes to its end,** if the neighbours of a node are the other ends of the
edges with the node at their end `key`. -/
theorem searches_reachFrom (key : String × String → String) {next : String → List String}
    (hlen : ∀ x, (next x).length = (g.edges.filter fun e => key e = x).length) (x : String) :
    Searches next [] (next x) (g.reachFrom next x) := by
  have hle : (next x).length ≤ g.edges.length := hlen x ▸ List.length_filter_le _ _
  have hall := List.length_filter_le (fun e => key e ∉ ([] : List String)) g.edges
  refine searches_reach (fun seen => (g.edges.filter fun e => key e ∉ seen).length) ?_
    (2 * g.edges.length) [] (next x) (by omega)
  intro seen z hz
  rw [hlen]
  exact length_unseen key g.edges hz

/-- **What a search finds** is what paths lead to. -/
theorem mem_iff_of_searches {next : String → List String} {found : List String}
    (h : Searches next [] (next x) found) : y ∈ found ↔ TransGen (fun a b => b ∈ next a) x y := by
  obtain ⟨hstack, hclosed⟩ := h.closed (by simp)
  constructor
  · intro hy
    rcases h.sound hy with h | ⟨z, hz, hzy⟩
    · simp at h
    · exact TransGen.head' hz hzy
  · intro hy
    induction hy with
    | single h => exact hstack _ (Or.inr h)
    | tail _ h ih => exact hclosed _ ih _ h

/-- **The search for ancestors comes to its end,** on cyclic graphs, too. -/
theorem searches_ancestors (g : Digraph) (x : String) :
    Searches g.predecessors [] (g.predecessors x) (g.ancestors x) := by
  refine searches_reachFrom Prod.snd (fun z => ?_) x
  unfold predecessors
  induction g.edges with
  | nil => simp
  | cons e edges ih => by_cases h : e.2 = z <;> simp [h, ih]

/-- **The search for descendants comes to its end,** on cyclic graphs, too. -/
theorem searches_descendants (g : Digraph) (x : String) :
    Searches g.successors [] (g.successors x) (g.descendants x) := by
  refine searches_reachFrom Prod.fst (fun z => ?_) x
  unfold successors
  induction g.edges with
  | nil => simp
  | cons e edges ih => by_cases h : e.1 = z <;> simp [h, ih]

/-- **The ancestors of a node** are those with a path of edges to it. -/
theorem mem_ancestors : x ∈ g.ancestors y ↔ TransGen (fun a b => (a, b) ∈ g.edges) x y := by
  rw [mem_iff_of_searches (g.searches_ancestors y), ← transGen_swap]
  simp only [mem_predecessors]

/-- **The descendants of a node** are those that a path of edges leads to. -/
theorem mem_descendants : y ∈ g.descendants x ↔ TransGen (fun a b => (a, b) ∈ g.edges) x y := by
  rw [mem_iff_of_searches (g.searches_descendants x)]
  simp only [mem_successors]

variable {edges : List (String × String)} {nodes : List String}

@[simp] theorem mem_edges_ofEdges {e : String × String} : e ∈ (ofEdges edges nodes).edges ↔ e ∈ edges := by
  simp [ofEdges]

theorem mem_nodes_ofEdges : x ∈ (ofEdges edges nodes).nodes ↔
    x ∈ nodes ∨ ∃ e ∈ edges, x = e.1 ∨ x = e.2 := by
  simp [ofEdges]

/-- The targets of a node in the graph of its successors. -/
theorem targets_adjacency (hnd : g.nodes.Nodup) (hx : x ∈ g.nodes) :
    g.adjacency.targets x = g.successors x := by
  have hkeys : ((g.nodes.map fun x => (x, g.successors x)).map Prod.fst).Nodup := by
    simpa [Function.comp_def] using hnd
  have hget : g.adjacency.get? x = some (g.successors x) := by
    rw [Table.get?_eq_some_iff, adjacency, Table.entries_ofList hkeys, List.mem_map]
    exact ⟨x, hx, rfl⟩
  simp [Adjacency.targets, Table.getD, hget]

/-- **An order of a graph of edges** has every node once, and the source of every edge before
its end. -/
theorem order_ok {l : List String} (h : (ofEdges edges nodes).order = .ok l) :
    l.Nodup ∧ (∀ x, x ∈ l ↔ x ∈ nodes ∨ ∃ e ∈ edges, x = e.1 ∨ x = e.2) ∧
      ∀ before y after, l = before ++ y :: after → ∀ x, (x, y) ∈ edges → x ∈ before := by
  set g := ofEdges edges nodes
  obtain ⟨hnd, hmem, hord⟩ := Adjacency.order_ok h
  have hnodes : g.nodes.Nodup := nodup_eraseDups _
  have hkeys : ∀ x, x ∈ g.adjacency.keys ↔ x ∈ g.nodes := by
    intro x
    rw [Table.keys, adjacency, Table.entries_ofList (by simpa [Function.comp_def] using hnodes)]
    simp [Function.comp_def]
  have htargets : ∀ {x y}, (x, y) ∈ edges → y ∈ g.adjacency.targets x := by
    intro x y he
    rw [targets_adjacency hnodes (mem_nodes_ofEdges.2 (Or.inr ⟨_, he, Or.inl rfl⟩)), mem_successors]
    exact mem_edges_ofEdges.2 he
  refine ⟨hnd, ?_, fun before y after hl x he => hord before y after hl x (htargets he)⟩
  intro x
  rw [hmem, Adjacency.mem_nodes, hkeys, ← mem_nodes_ofEdges]
  refine or_iff_left_of_imp ?_
  rintro ⟨z, hz⟩
  by_cases hzn : z ∈ g.nodes
  · rw [targets_adjacency hnodes hzn, mem_successors, mem_edges_ofEdges] at hz
    exact mem_nodes_ofEdges.2 (Or.inr ⟨_, hz, Or.inr rfl⟩)
  · have hnone : g.adjacency.get? z = none := by
      rw [Table.get?_eq_none_iff, Table.mem_iff, hkeys]; exact hzn
    simp [Adjacency.targets, Table.getD, hnone] at hz

end Digraph

end ValuedGraph
