import ValuedGraph.Proofs.Graph.Completeness
import ValuedGraph.Proofs.Model.Acceptable
import ValuedGraph.Proofs.Model.Correspondence
import ValuedGraph.Proofs.Model.Failures

/-!
# The order of declarations

Sorts prefer what is declared first, so properties and nodes are computed in quite different
orders if they are declared in another one. Neither acceptance nor values depend on it, as long as
overrides only refer to results that are in front in all these orders.

* `Definition.Reordered`: a definition whose properties and nodes are listed in another order.
* `Definition.Reordered.exists_accept`: **acceptance does not depend on the order.**
* `Definition.Reordered.correspond`: the two models say the same.
* `order_of_declarations`: **neither do values.**
-/

namespace ValuedGraph

open Relation

/-- **A definition whose properties and nodes are listed in another order.** -/
inductive Definition.Reordered (d : Definition) : Definition → Prop where
  | mk {properties : Table Property} {nodes : Table Node}
      (hproperties : d.properties.entries.Perm properties.entries)
      (hnodes : d.nodes.entries.Perm nodes.entries) : Reordered d { d with properties, nodes }

namespace Definition.Reordered

variable {d d' : Definition} {m m' : Model}

theorem symm (h : d.Reordered d') : d'.Reordered d := by
  obtain ⟨hproperties, hnodes⟩ := h
  exact .mk hproperties.symm hnodes.symm

theorem get?_properties (h : d.Reordered d') (k : String) :
    d.properties.get? k = d'.properties.get? k := by
  obtain ⟨hproperties, -⟩ := h
  exact Table.get?_of_perm hproperties k

theorem get?_nodes (h : d.Reordered d') (k : String) : d.nodes.get? k = d'.nodes.get? k := by
  obtain ⟨-, hnodes⟩ := h
  exact Table.get?_of_perm hnodes k

theorem mem_properties (h : d.Reordered d') {k : String} (hk : k ∈ d.properties) :
    k ∈ d'.properties := by
  rw [← Table.get?_isSome_iff] at hk ⊢
  rwa [← h.get?_properties]

theorem mem_nodes (h : d.Reordered d') {k : String} (hk : k ∈ d.nodes) : k ∈ d'.nodes := by
  rw [← Table.get?_isSome_iff] at hk ⊢
  rwa [← h.get?_nodes]

/-- What has no order to change is the same. -/
theorem others (h : d.Reordered d') : d.root = d'.root ∧ d.scenarios = d'.scenarios ∧
    d.tags = d'.tags ∧ d.display = d'.display := by
  obtain ⟨-, -⟩ := h
  exact ⟨rfl, rfl, rfl, rfl⟩

/-- **Dependencies are the same.** -/
theorem dependsOn (h : d.Reordered d') {name k : String} (hk : d.DependsOn name k) :
    d'.DependsOn name k := by
  obtain ⟨p, hp, hk⟩ := hk
  exact ⟨p, (h.get?_properties name).symm.trans hp, hk⟩

/-- A place allows the same in both definitions. -/
theorem valid (h : d.Reordered d') {e : Expr} {owner : String} {lacks : List Capability}
    (he : e.Valid (d.permissions owner lacks)) : e.Valid (d'.permissions owner lacks) := by
  have he := he.of_properties fun k hk => h.mem_properties hk
  obtain ⟨-, -⟩ := h
  exact he

theorem propertyOK (h : d.Reordered d') {name : String} {p : Property} (hp : d.PropertyOK name p) :
    d'.PropertyOK name p := by
  have hvalue := hp.value.of_properties fun k hk => h.mem_properties hk
  have hdisplay := fun key e he =>
    (hp.display key e he).of_properties fun k hk => h.mem_properties hk
  have hmem := fun {k} => @mem_properties d d' h k
  obtain ⟨-, -⟩ := h
  exact
    { dependencies := fun k hk => hmem (hp.dependencies k hk)
      implies := fun k hk => hmem (hp.implies k hk)
      unreserved := hp.unreserved
      value := hvalue
      display := hdisplay }

theorem nodeOK (h : d.Reordered d') {id : String} {n : Node} (hn : d.NodeOK id n) :
    d'.NodeOK id n where
  ne_root := hn.ne_root
  values k hk := h.mem_properties (hn.values k hk)
  tags tag ht := h.others.2.2.1 ▸ hn.tags tag ht
  edges e he :=
    { type := h.mem_properties (hn.edges e he).type
      ref := fun ref hr => h.mem_nodes ((hn.edges e he).ref ref hr)
      unreserved := (hn.edges e he).unreserved }
  display key e he := h.valid (hn.display key e he)

theorem scenarioOK (h : d.Reordered d') {name : String} {s : Scenario} (hs : d.ScenarioOK name s) :
    d'.ScenarioOK name s where
  ne_default := hs.ne_default
  nodes node overrides ho := (hs.nodes node overrides ho).imp_right h.mem_nodes
  overrides node overrides ho property e he :=
    (hs.overrides node overrides ho property e he).imp h.mem_properties h.valid

/-- **An order of properties is found** in both definitions. -/
theorem exists_propertyOrder (h : d.Reordered d') {l : List String} (hl : d.propertyOrder = .ok l) :
    ∃ l', d'.propertyOrder = .ok l' := by
  obtain ⟨order, horder, -⟩ := propertyOrder_eq_ok.1 hl
  have hget : ∀ x, d.dependencyGraph.get? x = d'.dependencyGraph.get? x := fun x => by
    rw [dependencyGraph, dependencyGraph, Table.get?_map, Table.get?_map, h.get?_properties]
  obtain ⟨order', horder'⟩ := Adjacency.exists_order_of_get? hget horder
  exact ⟨order'.reverse, propertyOrder_eq_ok.2 ⟨order', horder', rfl⟩⟩

/-- **An order of nodes is found** in both definitions. -/
theorem exists_nodeOrder (h : d.Reordered d') {l : List String} (hl : d.nodeOrder = .ok l) :
    ∃ l', d'.nodeOrder = .ok l' := by
  obtain ⟨-, hnodes⟩ := h
  obtain ⟨order', horder'⟩ := Digraph.exists_order_of_mem
    (fun e => (hnodes.flatMap_right _).mem_iff) (fun x => ((hnodes.map Prod.fst).cons _).mem_iff)
    (nodeOrder_eq_ok.1 hl)
  exact ⟨order', nodeOrder_eq_ok.2 horder'⟩

/-- **Acceptance does not depend on the order.** -/
theorem exists_accept (h : d.Reordered d') (haccept : d.accept = .ok m) :
    ∃ m', d'.accept = .ok m' := by
  obtain ⟨hm, rfl⟩ := accepted_of_accept haccept
  obtain ⟨propertyOrder, hproperties⟩ := h.exists_propertyOrder hm.propertyOrder
  obtain ⟨nodeOrder, hnodes⟩ := h.exists_nodeOrder hm.nodeOrder
  obtain ⟨hroot, hscenarios, -, hdisplay⟩ := h.others
  have hm' : Model.Accepted { definition := d', propertyOrder, graph := d'.nodeGraph, nodeOrder } :=
    { properties := fun name p hp =>
        h.propertyOK (hm.properties name p ((h.get?_properties name).trans hp))
      propertyOrder := hproperties
      root := fun k hk => h.mem_properties (hm.root k (hroot ▸ hk))
      nodeDisplay := fun key e he => h.valid (hm.nodeDisplay key e (hdisplay ▸ he))
      mergedDisplay := fun key e he => h.valid (hm.mergedDisplay key e (hdisplay ▸ he))
      nodes := fun id n hn => h.nodeOK (hm.nodes id n ((h.get?_nodes id).trans hn))
      scenarios := fun name s hs => h.scenarioOK (hm.scenarios name s (hscenarios ▸ hs))
      graph := rfl
      nodeOrder := hnodes }
  exact ⟨_, hm'.accept⟩

/-- **The two models say the same** about all nodes and all properties. -/
theorem correspond (h : m.definition.Reordered m'.definition) (hm : m.Accepted) (hm' : m'.Accepted)
    (s : String) : m.Correspond m' (m.scenario s) (m'.scenario s) (· ∈ m.definition.nodes)
      fun _ => True := by
  obtain ⟨hroot, hscenarios, htags, -⟩ := h.others
  have hscenario : m'.scenario s = m.scenario s := by rw [Model.scenario, Model.scenario, hscenarios]
  rw [hscenario]
  have halike : m.Alike m' (· ∈ m.definition.nodes) :=
    { left := hm
      right := hm'
      nodes := fun id _ => h.get?_nodes id
      refs := fun id _ r hr => hm.mem_of_mem_refs hr
      flow := fun name => by rw [h.get?_properties] }
  exact halike.correspond h.get?_properties hroot htags (.refl _) fun _ _ _ => rfl

end Definition.Reordered

variable {d d' : Definition}

/-- The default scenario of an accepted model overrides nothing. -/
theorem Model.Accepted.overrides_default {m : Model} (hm : m.Accepted) (id : String) :
    (m.scenario defaultScenario).overrides id = ∅ := by
  have hnone : m.definition.scenarios.get? defaultScenario = none := by
    cases hs : m.definition.scenarios.get? defaultScenario with
    | none => rfl
    | some s => exact absurd rfl (hm.scenarios _ s hs).ne_default
  rw [Model.scenario, Table.getD, hnone]
  rfl

/-- **The order of declarations does not matter.** Two definitions only differ in the order in
which properties and nodes are listed. Either both are accepted or none is. Under the default
scenario, and under every scenario whose overrides of nodes only refer to results of properties
that the overridden one depends on, directly or not, the values of a node are the same in both
models, after any runs, or cannot be read in either. -/
theorem order_of_declarations (h : d.Reordered d') :
    ((∃ m, d.accept = .ok m) ↔ ∃ m', d'.accept = .ok m') ∧
    ∀ m m', d.accept = .ok m → d'.accept = .ok m' →
      ∀ ops ops', m.active ops = m'.active ops' →
        m.active ops = defaultScenario ∨
          (∀ node ∈ d.nodes, ∀ name e,
            ((m.scenario (m.active ops)).overrides node).get? name = some e →
              ∀ k ∈ e.dependencies, TransGen d.DependsOn name k) →
        ∀ id, SameReading (m.read (.values id) (m.run ops {})).result
          (m'.read (.values id) (m'.run ops' {})).result := by
  refine ⟨⟨fun ⟨_, hm⟩ => h.exists_accept hm, fun ⟨_, hm'⟩ => h.symm.exists_accept hm'⟩, ?_⟩
  intro m m' haccept haccept' ops ops' hactive hscenario id
  obtain ⟨hm, rfl⟩ := accepted_of_accept haccept
  obtain ⟨hm', rfl⟩ := accepted_of_accept haccept'
  have hcorr := h.correspond hm hm' (m.active ops)
  -- overrides refer to results that are in front in both orders
  have hdepends : ∀ node ∈ m.definition.nodes, ∀ name e,
      ((m.scenario (m.active ops)).overrides node).get? name = some e →
        ∀ k ∈ e.dependencies, TransGen m.definition.DependsOn name k := by
    rcases hscenario with hdefault | hdepends
    · intro node _ name e he
      rw [hdefault, hm.overrides_default] at he
      cases he
    · exact hdepends
  have hfront : ∀ node ∈ m.definition.nodes, ∀ name e,
      ((m.scenario (m.active ops)).overrides node).get? name = some e →
        ∀ k ∈ e.dependencies, (m.InFront k name ↔ m'.InFront k name) := by
    intro node hnode name e he k hk
    have hpath := hdepends node hnode name e he k hk
    exact iff_of_true (hm.inFront_of_dependsOn hpath)
      (hm'.inFront_of_dependsOn (TransGen.mono (fun _ _ => h.dependsOn) _ _ hpath))
  have hnode : m.node? id = m'.node? id := by rw [Model.node?, Model.node?, h.get?_nodes]
  cases hn : m.node? id with
  | none =>
    rw [read_unknown (r := .values id) rfl hn, read_unknown (r := .values id) rfl (hnode ▸ hn)]
    exact .failures _ _
  | some n =>
    rw [read_values_run hm ops hn, read_values_run hm' ops' (hnode ▸ hn), ← hactive]
    exact hcorr.sameReading hfront ((Model.known_of_node? hn).imp_right fun hid => ⟨hid, hid⟩)

/-- The river, declared from its spring on. -/
def springFirst : Definition :=
  { river with
    properties := .ofList [
      ("depth",
        { name := "depth", value := .resultValue "flow", dependencies := ["flow"]
          calculateWhen := .always }),
      ("flow", { name := "flow", value := .parentValue "flow", combiner := .sum })]
    nodes := .ofList [
      ("spring", { edges := [{ type := "flow" }] }),
      ("mouth", { edges := [{ type := "flow", ref := some "spring" }] })] }

/-- The river in a drought, declared in both orders. -/
theorem order_of_declarations_river :
    ((∃ m, river.accept = .ok m) ↔ ∃ m', springFirst.accept = .ok m') ∧
    ∃ m m', river.accept = .ok m ∧ springFirst.accept = .ok m' ∧ ∀ id,
      SameReading (m.read (.values id) (m.run [.enter "drought"] {})).result
        (m'.read (.values id) (m'.run [.read .summary, .enter "drought"] {})).result := by
  have hreordered : river.Reordered springFirst := .mk (List.Perm.swap _ _ _) (List.Perm.swap _ _ _)
  obtain ⟨haccept, hvalues⟩ := order_of_declarations hreordered
  have h : river.accept = .ok _ := rfl
  have h' : springFirst.accept = .ok _ := rfl
  refine ⟨haccept, _, _, h, h', hvalues _ _ h h' [.enter "drought"] [.read .summary, .enter "drought"]
    rfl (Or.inr fun node _ name e he k hk => ?_)⟩
  -- the only override reads no results
  obtain rfl := override_river rfl he
  simp [Expr.mem_dependencies, Expr.walk_eq, Expr.children] at hk

end ValuedGraph
