import ValuedGraph.Proofs.Graph.Cycles
import ValuedGraph.Proofs.Model.Acceptable
import ValuedGraph.Proofs.Model.Values

/-!
# Well-formed definitions

A definition is well-formed if its names refer to something, its expressions are valid where they
stand, and neither the dependencies of properties nor the edges between nodes run in circles. The
two sorts of acceptance find an order if there is no circle, so acceptance demands this and nothing
else.

* `Definition.HasEdgeTo`: edges from node to node, as they are written.
* `Definition.WellFormed`: **well-formed definitions.**
* `Definition.exists_propertyOrder_iff`, `Definition.exists_nodeOrder_iff`: the two sorts.
* `Definition.accepts_wellFormed`: **what is accepted.**
-/

namespace ValuedGraph

open Relation

namespace Definition

variable {d : Definition} {id ref : String}

/-- **A node has an edge to another one.** Edges that lead to the root do not count. -/
def HasEdgeTo (d : Definition) (id ref : String) : Prop :=
  ∃ n, d.nodes.get? id = some n ∧ ∃ e ∈ n.edges, e.ref = some ref

/-- **A well-formed definition.** -/
structure WellFormed (d : Definition) : Prop where
  /-- dependencies and implied types are properties, no constant has a reserved name, and the value
  and the display settings of the edges of the type are valid -/
  properties : ∀ name p, d.properties.get? name = some p → d.PropertyOK name p
  root : ∀ k ∈ d.root.keys, k ∈ d.properties
  nodeDisplay : ∀ key e, (key, e) ∈ d.display.node.entries →
    e.Valid (d.permissions "node display" nodeDisplayLacks)
  mergedDisplay : ∀ key e, (key, e) ∈ d.display.edgeCombiner.entries →
    e.Valid (d.permissions "edge combiner display" mergedDisplayLacks)
  /-- ids are not empty; values, types of edges, refs and tags are declared, no constant has a
  reserved name, and the display settings are valid -/
  nodes : ∀ id n, d.nodes.get? id = some n → d.NodeOK id n
  /-- names are not empty, overridden nodes and properties are declared, and overrides are valid -/
  scenarios : ∀ name s, d.scenarios.get? name = some s → d.ScenarioOK name s
  /-- no property depends on itself, directly or not -/
  dependencies : ∀ name, ¬ TransGen d.DependsOn name name
  /-- no node has a path of edges to itself -/
  edges : ∀ id, ¬ TransGen d.HasEdgeTo id id

/-- **An order of properties is found** if no property depends on itself. -/
theorem exists_propertyOrder_iff :
    (∃ l, d.propertyOrder = .ok l) ↔ ∀ name, ¬ TransGen d.DependsOn name name := by
  have hleads : d.dependencyGraph.Leads = d.DependsOn := by
    funext name k
    exact propext mem_targets_dependencyGraph
  have hacyclic : d.dependencyGraph.Acyclic ↔ ∀ name, ¬ TransGen d.DependsOn name name := by
    rw [Adjacency.Acyclic, hleads]
  rw [← hacyclic, ← Adjacency.exists_order_iff]
  simp only [propertyOrder_eq_ok]
  exact ⟨fun ⟨_, order, horder, _⟩ => ⟨order, horder⟩,
    fun ⟨order, horder⟩ => ⟨_, order, horder, rfl⟩⟩

/-- The graph of nodes leads to each node from the targets of its edges. -/
theorem leads_nodeGraph : d.nodeGraph.adjacency.Leads ref id ↔
    ∃ n, d.nodes.get? id = some n ∧ ∃ e ∈ n.edges, e.target = ref :=
  Digraph.leads_ofEdges.trans mem_nodeGraph_edges

theorem HasEdgeTo.leads (h : d.HasEdgeTo id ref) : d.nodeGraph.adjacency.Leads ref id := by
  obtain ⟨n, hn, e, he, href⟩ := h
  exact leads_nodeGraph.2 ⟨n, hn, e, he, by simp [Edge.target, href]⟩

/-- An edge of the graph of nodes that does not come from the root is written. -/
theorem hasEdgeTo_of_leads (h : d.nodeGraph.adjacency.Leads ref id) (hroot : ref ≠ rootId) :
    d.HasEdgeTo id ref := by
  obtain ⟨n, hn, e, he, rfl⟩ := leads_nodeGraph.1 h
  refine ⟨n, hn, e, he, ?_⟩
  cases href : e.ref with
  | none => exact absurd (by simp [Edge.target, href]) hroot
  | some r => simp [Edge.target, href]

/-- A path in the graph of nodes that does not start at the root is one of written edges. The root
is no node, so a path never comes through it. -/
theorem transGen_hasEdgeTo (hnodes : rootId ∉ d.nodes)
    (h : TransGen d.nodeGraph.adjacency.Leads ref id) (hroot : ref ≠ rootId) :
    TransGen d.HasEdgeTo id ref := by
  induction h using TransGen.head_induction_on with
  | single hstep => exact TransGen.single (hasEdgeTo_of_leads hstep hroot)
  | head hstep _ ih =>
    have hedge := hasEdgeTo_of_leads hstep hroot
    have ⟨n, hn, _⟩ := hedge
    exact (ih fun heq => hnodes (heq ▸ Table.mem_of_get? hn)).tail hedge

/-- **An order of nodes is found** if no node has a path of edges to itself. -/
theorem exists_nodeOrder_iff (hnodes : rootId ∉ d.nodes) :
    (∃ l, d.nodeOrder = .ok l) ↔ ∀ id, ¬ TransGen d.HasEdgeTo id id := by
  have hacyclic : d.nodeGraph.adjacency.Acyclic ↔ ∀ id, ¬ TransGen d.HasEdgeTo id id := by
    constructor
    · intro h id hid
      exact h id (transGen_swap.1 (TransGen.mono (fun _ _ => HasEdgeTo.leads) _ _ hid))
    · intro h id hid
      -- a node on a cycle has edges, which the root has not
      obtain ⟨_, -, hlast⟩ := TransGen.tail'_iff.1 hid
      obtain ⟨n, hn, -⟩ := leads_nodeGraph.1 hlast
      exact h id (transGen_hasEdgeTo hnodes hid fun heq => hnodes (heq ▸ Table.mem_of_get? hn))
  rw [← hacyclic, ← Adjacency.exists_order_iff]
  simp only [nodeOrder_eq_ok, Digraph.order]

/-- What is accepted is well-formed. -/
theorem wellFormed_of_accepted {m : Model} (h : m.Accepted) : m.definition.WellFormed where
  properties := h.properties
  root := h.root
  nodeDisplay := h.nodeDisplay
  mergedDisplay := h.mergedDisplay
  nodes := h.nodes
  scenarios := h.scenarios
  dependencies := exists_propertyOrder_iff.1 ⟨_, h.propertyOrder⟩
  edges := (exists_nodeOrder_iff h.root_not_mem).1 ⟨_, h.nodeOrder⟩

/-- **What is well-formed is accepted.** -/
theorem WellFormed.exists_accept (h : d.WellFormed) : ∃ m, d.accept = .ok m := by
  have hnodes : rootId ∉ d.nodes := fun hroot => by
    obtain ⟨n, hn⟩ := Table.exists_get? hroot
    exact (h.nodes rootId n hn).ne_root rfl
  obtain ⟨propertyOrder, hproperties⟩ := exists_propertyOrder_iff.2 h.dependencies
  obtain ⟨nodeOrder, hnodeOrder⟩ := (exists_nodeOrder_iff hnodes).2 h.edges
  have hm : Model.Accepted { definition := d, propertyOrder, graph := d.nodeGraph, nodeOrder } :=
    { properties := h.properties
      propertyOrder := hproperties
      root := h.root
      nodeDisplay := h.nodeDisplay
      mergedDisplay := h.mergedDisplay
      nodes := h.nodes
      scenarios := h.scenarios
      graph := rfl
      nodeOrder := hnodeOrder }
  exact ⟨_, hm.accept⟩

/-- **What is accepted are the well-formed definitions.** A definition becomes its model, or there
is an error that says what is wrong with it; and it becomes a model if it is well-formed, and only
then. -/
theorem accepts_wellFormed (d : Definition) :
    ((∃ m, d.accept = .ok m ∧ m.definition = d) ∨ ∃ e, d.accept = .error e) ∧
      ((∃ m, d.accept = .ok m) ↔ d.WellFormed) := by
  constructor
  · cases haccept : d.accept with
    | ok m => exact Or.inl ⟨m, rfl, (accepted_of_accept haccept).2⟩
    | error e => exact Or.inr ⟨e, rfl⟩
  · constructor
    · rintro ⟨m, haccept⟩
      obtain ⟨hm, rfl⟩ := accepted_of_accept haccept
      exact wellFormed_of_accepted hm
    · exact WellFormed.exists_accept

end Definition

end ValuedGraph
