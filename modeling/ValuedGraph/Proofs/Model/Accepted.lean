import ValuedGraph.Model.Acceptance
import ValuedGraph.Proofs.Expr.Validity
import ValuedGraph.Proofs.Graph.Reachability
import ValuedGraph.Proofs.Succeeding

/-!
# What acceptance guarantees

The checks of acceptance run in a fixed order and stop at the first fault. A definition that
passes all of them has none, and each check leaves one structure of facts behind.

* `Definition.PropertyOK`, `NodeOK`, `EdgeOK`, `ScenarioOK`: what the checks establish.
* `Model.Accepted`: **what an accepted model has**, the two orders included.
* `accepted_of_accept`: acceptance guarantees it.
* `Model.Accepted.nodeOrder_ok`: every node stands behind the nodes that its edges lead to.
* `Model.Accepted.propertyOrder_ok`: every property stands behind its dependencies.
-/

namespace ValuedGraph

/-- **An expression without violation,** wherever the place of the expression is. -/
def Expr.Valid (e : Expr) (p : Permissions) : Prop := ∃ path, e.validate p path = .ok ()

theorem Expr.Valid.finds {e : Expr} {p : Permissions} {s : Surroundings} (h : e.Valid p)
    (hs : s.Meets p) : (e.evaluate s).Finds := by
  obtain ⟨path, hv⟩ := h
  exact evaluate_finds hs hv

theorem demand_ok {condition : Bool} {error : AcceptanceError} :
    demand condition error = .ok () ↔ condition = true := by
  cases condition <;> simp [demand]

theorem demandValid_ok {e : Expr} {p : Permissions} {path : String}
    (h : Definition.demandValid e p path = .ok ()) : e.Valid p := by
  refine ⟨path, ?_⟩
  unfold Definition.demandValid at h
  cases hv : e.validate p path with
  | ok u => rfl
  | error m =>
    rw [hv] at h
    cases h

/-- A check of all members of a list went well for each of them. -/
theorem forM_ok {ε α : Type} {f : α → Except ε PUnit} {l : List α} (h : l.forM f = .ok ()) :
    ∀ a ∈ l, f a = .ok () := by
  induction l with
  | nil => intro a ha; simp at ha
  | cons b l ih =>
    intro a ha
    change (f b >>= fun _ => l.forM f) = .ok () at h
    obtain ⟨hb, hl⟩ := check_bind h
    rcases List.mem_cons.1 ha with rfl | ha
    · exact hb
    · exact ih hl a ha

namespace Definition

variable {d : Definition}

/-- What the check of a property establishes. -/
structure PropertyOK (d : Definition) (name : String) (p : Property) : Prop where
  dependencies : ∀ k ∈ p.dependencies, k ∈ d.properties
  implies : ∀ k ∈ p.implies, k ∈ d.properties
  unreserved : reservedAmong p.constants.keys = []
  value : p.value.Valid (d.valuePermissions p name)
  display : ∀ key e, (key, e) ∈ (d.edgeDisplay p).entries → e.Valid (d.edgeDisplayPermissions p name)

/-- What the check of an edge establishes. -/
structure EdgeOK (d : Definition) (e : Edge) : Prop where
  type : e.type ∈ d.properties
  ref : ∀ ref, e.ref = some ref → ref ∈ d.nodes
  unreserved : reservedAmong e.constants.keys = []

/-- What the check of a node establishes. -/
structure NodeOK (d : Definition) (id : String) (n : Node) : Prop where
  ne_root : id ≠ rootId
  values : ∀ k ∈ n.values.keys, k ∈ d.properties
  tags : ∀ tag ∈ n.tags, tag ∈ d.tags
  edges : ∀ e ∈ n.edges, d.EdgeOK e
  display : ∀ key e, (key, e) ∈ n.display.entries →
    e.Valid (d.permissions s!"node display of '{id}'" nodeDisplayLacks)

/-- What the check of a scenario establishes. -/
structure ScenarioOK (d : Definition) (name : String) (s : Scenario) : Prop where
  ne_default : name ≠ defaultScenario
  nodes : ∀ node overrides, (node, overrides) ∈ s.overlay.entries → node = rootId ∨ node ∈ d.nodes
  overrides : ∀ node overrides, (node, overrides) ∈ s.overlay.entries →
    ∀ property e, (property, e) ∈ overrides.entries →
      property ∈ d.properties ∧ e.Valid (d.permissions s!"scenario '{name}'" overrideLacks)

theorem propertyOrder_eq_ok {l : List String} : d.propertyOrder = .ok l ↔
    ∃ order, d.dependencyGraph.order = .ok order ∧ l = order.reverse := by
  unfold propertyOrder
  cases d.dependencyGraph.order with
  | ok order => simp [eq_comm]
  | error cyclic => simp

theorem nodeOrder_eq_ok {l : List String} : d.nodeOrder = .ok l ↔ d.nodeGraph.order = .ok l := by
  unfold nodeOrder
  cases d.nodeGraph.order <;> simp

/-- The graph of properties leads from each property to its dependencies. -/
theorem mem_targets_dependencyGraph {name k : String} : k ∈ d.dependencyGraph.targets name ↔
    ∃ p, d.properties.get? name = some p ∧ k ∈ p.dependencies := by
  rw [Adjacency.targets, Table.getD, dependencyGraph, Table.get?_map]
  cases d.properties.get? name <;> simp

/-- The edges of the graph of nodes lead from what the edges of a node lead to, to the node. -/
theorem mem_nodeGraph_edges {ref id : String} : (ref, id) ∈ d.nodeGraph.edges ↔
    ∃ n, d.nodes.get? id = some n ∧ ∃ e ∈ n.edges, e.target = ref := by
  rw [nodeGraph, Digraph.mem_edges_ofEdges, List.mem_flatMap]
  constructor
  · rintro ⟨⟨k, n⟩, hn, hm⟩
    obtain ⟨e, he, heq⟩ := List.mem_map.1 hm
    obtain ⟨rfl, rfl⟩ := Prod.mk.inj heq
    exact ⟨n, Table.get?_eq_some_iff.2 hn, e, he, rfl⟩
  · rintro ⟨n, hn, e, he, rfl⟩
    exact ⟨(id, n), Table.get?_eq_some_iff.1 hn, List.mem_map.2 ⟨e, he, rfl⟩⟩

theorem demandProperty_ok {path name : String} (h : d.demandProperty path name = .ok ()) :
    name ∈ d.properties := by
  simpa [demandProperty, demand_ok] using h

theorem demandUnreserved_ok {path : String} {constants : Table Float}
    (h : demandUnreserved path constants = .ok ()) : reservedAmong constants.keys = [] := by
  simpa [demandUnreserved, demand_ok] using h

theorem checkProperty_ok {name : String} {p : Property} (h : d.checkProperty name p = .ok ()) :
    d.PropertyOK name p := by
  unfold checkProperty at h
  obtain ⟨hdep, h⟩ := check_bind h
  obtain ⟨himp, h⟩ := check_bind h
  obtain ⟨hres, h⟩ := check_bind h
  obtain ⟨hval, h⟩ := check_bind h
  exact ⟨fun k hk => demandProperty_ok (forM_ok hdep k hk),
    fun k hk => demandProperty_ok (forM_ok himp k hk), demandUnreserved_ok hres,
    demandValid_ok hval, fun key e he => demandValid_ok (forM_ok h (key, e) he)⟩

theorem checkEdge_ok {path : String} {e : Edge} (h : d.checkEdge path e = .ok ()) : d.EdgeOK e := by
  unfold checkEdge at h
  obtain ⟨htype, h⟩ := check_bind h
  have htype : e.type ∈ d.properties := by simpa [demand_ok] using htype
  cases href : e.ref with
  | none =>
    simp only [href] at h
    exact ⟨htype, fun ref hr => by simp [href] at hr, demandUnreserved_ok h⟩
  | some ref =>
    simp only [href] at h
    obtain ⟨hnode, h⟩ := check_bind h
    refine ⟨htype, fun ref' hr => ?_, demandUnreserved_ok h⟩
    obtain rfl := Option.some.inj (href.symm.trans hr)
    simpa [demand_ok] using hnode

theorem checkNode_ok {id : String} {n : Node} (h : d.checkNode id n = .ok ()) : d.NodeOK id n := by
  unfold checkNode at h
  obtain ⟨hid, h⟩ := check_bind h
  obtain ⟨hvalues, h⟩ := check_bind h
  obtain ⟨htags, h⟩ := check_bind h
  obtain ⟨hedges, h⟩ := check_bind h
  refine ⟨by simpa [demand_ok] using hid, fun k hk => demandProperty_ok (forM_ok hvalues k hk),
    fun tag ht => by simpa [demand_ok] using forM_ok htags tag ht, ?_,
    fun key e he => demandValid_ok (forM_ok h (key, e) he)⟩
  intro e he
  obtain ⟨i, hi⟩ := List.mem_iff_getElem?.1 he
  exact checkEdge_ok (forM_ok hedges (e, i) (List.mem_zipIdx_iff_getElem?.2 hi))

theorem checkScenario_ok {name : String} {s : Scenario} (h : d.checkScenario name s = .ok ()) :
    d.ScenarioOK name s := by
  unfold checkScenario at h
  obtain ⟨hname, h⟩ := check_bind h
  refine ⟨by simpa [demand_ok] using hname, ?_, ?_⟩
  · intro node overrides he
    obtain ⟨hnode, _⟩ := check_bind (forM_ok h (node, overrides) he)
    simpa [demand_ok] using hnode
  · intro node overrides he property e hp
    obtain ⟨_, hover⟩ := check_bind (forM_ok h (node, overrides) he)
    obtain ⟨hprop, hvalid⟩ := check_bind (forM_ok hover (property, e) hp)
    exact ⟨demandProperty_ok hprop, demandValid_ok hvalid⟩

end Definition

/-- **What an accepted model has.** -/
structure Model.Accepted (m : Model) : Prop where
  properties : ∀ name p, m.definition.properties.get? name = some p → m.definition.PropertyOK name p
  propertyOrder : m.definition.propertyOrder = .ok m.propertyOrder
  root : ∀ k ∈ m.definition.root.keys, k ∈ m.definition.properties
  nodeDisplay : ∀ key e, (key, e) ∈ m.definition.display.node.entries →
    e.Valid (m.definition.permissions "node display" nodeDisplayLacks)
  mergedDisplay : ∀ key e, (key, e) ∈ m.definition.display.edgeCombiner.entries →
    e.Valid (m.definition.permissions "edge combiner display" mergedDisplayLacks)
  nodes : ∀ id n, m.definition.nodes.get? id = some n → m.definition.NodeOK id n
  scenarios : ∀ name s, m.definition.scenarios.get? name = some s → m.definition.ScenarioOK name s
  graph : m.graph = m.definition.nodeGraph
  nodeOrder : m.definition.nodeOrder = .ok m.nodeOrder

/-- **Acceptance guarantees it.** -/
theorem accepted_of_accept {d : Definition} {m : Model} (h : d.accept = .ok m) :
    m.Accepted ∧ m.definition = d := by
  unfold Definition.accept at h
  obtain ⟨hprops, h⟩ := check_bind h
  obtain ⟨order, horder, h⟩ := ok_of_bind h
  obtain ⟨hroot, h⟩ := check_bind h
  obtain ⟨hdisplay, h⟩ := check_bind h
  obtain ⟨hnodes, h⟩ := check_bind h
  obtain ⟨hscenarios, h⟩ := check_bind h
  obtain ⟨nodeOrder, hnodeOrder, h⟩ := ok_of_bind h
  obtain rfl := Except.ok.inj h
  unfold Definition.checkDisplay at hdisplay
  obtain ⟨hnode, hmerged⟩ := check_bind hdisplay
  refine ⟨⟨?_, horder, fun k hk => Definition.demandProperty_ok (forM_ok hroot k hk), ?_, ?_, ?_, ?_,
    rfl, hnodeOrder⟩, rfl⟩
  · intro name p hp
    exact Definition.checkProperty_ok (forM_ok hprops (name, p) (Table.get?_eq_some_iff.1 hp))
  · intro key e he
    exact demandValid_ok (forM_ok hnode (key, e) he)
  · intro key e he
    exact demandValid_ok (forM_ok hmerged (key, e) he)
  · intro id n hn
    exact Definition.checkNode_ok (forM_ok hnodes (id, n) (Table.get?_eq_some_iff.1 hn))
  · intro name s hs
    exact Definition.checkScenario_ok (forM_ok hscenarios (name, s) (Table.get?_eq_some_iff.1 hs))

/-- A river: what flows comes from above, in the end from rain, and makes the water deep. In a
drought, half of it comes out of the spring. -/
def river : Definition where
  properties := .ofList [
    ("flow", { name := "flow", value := .parentValue "flow", combiner := .sum }),
    ("depth",
      { name := "depth", value := .resultValue "flow", dependencies := ["flow"]
        calculateWhen := .always })]
  root := .ofList [("flow", 8.0)]
  nodes := .ofList [
    ("mouth", { edges := [{ type := "flow", ref := some "spring" }] }),
    ("spring", { edges := [{ type := "flow" }] })]
  scenarios := .ofList [("drought",
    { name := "drought"
      overlay := .ofList [
        ("spring", .ofList [("flow", .arithmetic .divide .input (.literal [2.0]))])] })]

example : river.accept.toOption.map Model.nodeOrder = some [rootId, "spring", "mouth"] := by rfl

namespace Model

variable {m : Model}

/-- **The nodes that the edges of a node lead to,** the root apart. -/
def refs (m : Model) (id : String) : List String :=
  match m.definition.nodes.get? id with
  | some n => (n.edges.map Edge.target).filter (· ≠ rootId)
  | none => []

theorem mem_refs {id r : String} : r ∈ m.refs id ↔
    r ≠ rootId ∧ ∃ n, m.definition.nodes.get? id = some n ∧ ∃ e ∈ n.edges, e.target = r := by
  unfold refs
  cases m.definition.nodes.get? id with
  | none => simp
  | some n => simp [and_comm]

namespace Accepted

/-- The root is not a node of the definition. -/
theorem root_not_mem (h : m.Accepted) : rootId ∉ m.definition.nodes := by
  intro hr
  obtain ⟨n, hn⟩ := Table.exists_get? hr
  exact (h.nodes rootId n hn).ne_root rfl

/-- The nodes that edges lead to are nodes of the definition. -/
theorem mem_of_mem_refs (h : m.Accepted) {id r : String} (hr : r ∈ m.refs id) :
    r ∈ m.definition.nodes := by
  obtain ⟨hroot, n, hn, e, he, rfl⟩ := mem_refs.1 hr
  have hok := (h.nodes id n hn).edges e he
  cases href : e.ref with
  | none => simp [Edge.target, href] at hroot
  | some ref => simpa [Edge.target, href] using hok.ref ref href

/-- The edges of the graph lead from what the edges of a node lead to, to the node. -/
theorem mem_graph_edges (h : m.Accepted) {r id : String} :
    (r, id) ∈ m.graph.edges ↔
      ∃ n, m.definition.nodes.get? id = some n ∧ ∃ e ∈ n.edges, e.target = r := by
  rw [h.graph, Definition.mem_nodeGraph_edges]

/-- What the order of nodes is: the root and every node of the definition once, and every node
behind the nodes that its edges lead to. -/
theorem nodeOrder_ok (h : m.Accepted) :
    m.nodeOrder.Nodup ∧ (∀ k, k ∈ m.nodeOrder ↔ k = rootId ∨ k ∈ m.definition.nodes) ∧
      ∀ before id after, m.nodeOrder = before ++ id :: after → ∀ r ∈ m.refs id, r ∈ before := by
  have ho := Definition.nodeOrder_eq_ok.1 h.nodeOrder
  have hgraph := @mem_graph_edges m h
  rw [h.graph, Definition.nodeGraph] at hgraph
  simp only [Digraph.mem_edges_ofEdges] at hgraph
  obtain ⟨hnd, hmem, hord⟩ := Digraph.order_ok ho
  refine ⟨hnd, ?_, ?_⟩
  · intro k
    rw [hmem, List.mem_cons]
    refine or_iff_left_of_imp ?_
    rintro ⟨⟨r, id⟩, he, hk⟩
    obtain ⟨n, hn, e, hen, hr⟩ := hgraph.1 he
    rcases hk with rfl | rfl
    · by_cases hroot : k = rootId
      · exact Or.inl hroot
      · exact Or.inr (h.mem_of_mem_refs (mem_refs.2 ⟨hroot, n, hn, e, hen, hr⟩))
    · exact Or.inr (Table.mem_of_get? hn)
  · intro before id after hl r hr
    obtain ⟨-, n, hn, e, he, hr⟩ := mem_refs.1 hr
    exact hord before id after hl r (hgraph.2 ⟨n, hn, e, he, hr⟩)

/-- What the order of properties is: every property once, and every property behind its
dependencies. -/
theorem propertyOrder_ok (h : m.Accepted) :
    m.propertyOrder.Nodup ∧ (∀ k, k ∈ m.propertyOrder ↔ k ∈ m.definition.properties) ∧
      ∀ before k after, m.propertyOrder = before ++ k :: after →
        ∀ p, m.definition.properties.get? k = some p → ∀ j ∈ p.dependencies, j ∈ before := by
  obtain ⟨l, ho, hl⟩ := Definition.propertyOrder_eq_ok.1 h.propertyOrder
  obtain ⟨hnd, hmem, hord⟩ := Adjacency.order_ok ho
  refine ⟨hl ▸ (l.reverse_perm.nodup_iff.2 hnd), ?_, ?_⟩
  · intro k
    rw [hl, List.mem_reverse, hmem, Adjacency.mem_nodes, Definition.dependencyGraph, Table.keys_map]
    refine or_iff_left_of_imp ?_
    rintro ⟨i, hi⟩
    obtain ⟨p, hp, hk⟩ := Definition.mem_targets_dependencyGraph.1 hi
    exact (h.properties i p hp).dependencies k hk
  · -- the graph leads from properties to dependencies, and its order is read backwards
    intro before k after hsplit p hp j hj
    have htarget := Definition.mem_targets_dependencyGraph.2 ⟨p, hp, hj⟩
    refine hord.reverse hnd ?_ (hl ▸ hsplit) htarget
    intro a b hb
    exact (hmem b).2 (Adjacency.mem_nodes.2 (Or.inr ⟨a, hb⟩))

end Accepted

end Model

end ValuedGraph
