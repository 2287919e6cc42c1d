import ValuedGraph.Proofs.Model.Outcomes

/-!
# The values of a node, property by property

Values are added to a table in the order of properties. A value never changes once it is there,
so what was known when a property was computed is a part of the finished table.

* `Model.Accepted.node_induction`: facts that go from refs to nodes.
* `Model.InFront`: which of two properties is computed first.
* `Model.valueTable_split`: **where a value of a table comes from.**
* `Model.overrideRoot_ok`: what an override of the root writes.
* `Model.Accepted.mem_rootOf`, `Model.Accepted.mem_outcome`: the names in a finished table are
  those of the properties.
* `Model.Accepted.reading_ref`, `Model.Accepted.reading_of_refs`: a node can be read if it has an
  outcome and its refs can be read, and only then.
-/

namespace ValuedGraph

open Relation

/-- **A property declares another one** among its dependencies. -/
def Definition.DependsOn (d : Definition) (name k : String) : Prop :=
  ∃ p, d.properties.get? name = some p ∧ k ∈ p.dependencies

namespace Model

variable {m : Model} {σ : Scenario} {id name : String} {i : Inputs} {t v : Table Float}

namespace Accepted

/-- **What goes from refs to nodes** holds of all nodes. -/
theorem node_induction (h : m.Accepted) {p : String → Prop}
    (hp : ∀ id ∈ m.definition.nodes, (∀ r ∈ m.refs id, p r) → p id) :
    ∀ id ∈ m.definition.nodes, p id := by
  obtain ⟨-, hmem, hrefs⟩ := h.nodeOrder_ok
  intro id hid
  refine forall_mem_of_prefix (p := fun k => k ∈ m.definition.nodes → p k) ?_ id
    ((hmem id).2 (Or.inr hid)) hid
  intro before k after hl hbefore hk
  exact hp k hk fun r hr => hbefore r (hrefs before k after hl r hr) (h.mem_of_mem_refs hr)

end Accepted

/-- **One property is in front of another** in the order in which they are computed. -/
def InFront (m : Model) (k name : String) : Prop :=
  ∃ before after, m.propertyOrder = before ++ name :: after ∧ k ∈ before

namespace Accepted

variable {j k : String}

/-- There is one place for a name in the order of properties. -/
theorem inFront_iff (h : m.Accepted) {before after : List String}
    (hl : m.propertyOrder = before ++ name :: after) : m.InFront k name ↔ k ∈ before :=
  mem_before_iff h.propertyOrder_ok.1 hl

theorem inFront_trans (h : m.Accepted) (hkj : m.InFront k j) (hj : m.InFront j name) :
    m.InFront k name := by
  obtain ⟨before, after, hl, hj⟩ := hj
  obtain ⟨front, back, rfl⟩ := List.append_of_mem hj
  have hk := (h.inFront_iff (by rw [hl, List.append_assoc, List.cons_append])).1 hkj
  exact ⟨front ++ j :: back, after, hl, List.mem_append_left _ hk⟩

/-- **What a property depends on is in front of it,** directly or not. -/
theorem inFront_of_dependsOn (h : m.Accepted)
    (hk : TransGen m.definition.DependsOn name k) : m.InFront k name := by
  have hstep : ∀ {name k}, m.definition.DependsOn name k → m.InFront k name := by
    rintro name k ⟨p, hp, hk⟩
    have hname := (h.propertyOrder_ok.2.1 name).2 (Table.mem_of_get? hp)
    obtain ⟨before, after, hl⟩ := List.append_of_mem hname
    exact ⟨before, after, hl, h.propertyOrder_ok.2.2 before name after hl p hp k hk⟩
  induction hk with
  | single hk => exact hstep hk
  | tail _ hk ih => exact h.inFront_trans (hstep hk) ih

end Accepted

/-- **A value never changes** once it is there. -/
theorem get?_foldlM_addValue {l : List String} {k : String} (hk : k ∉ l) :
    ∀ {t : Table Float}, (l.foldlM (m.addValue i) t).result = .ok v → v.get? k = t.get? k := by
  induction l with
  | nil =>
    intro t h
    obtain rfl := Except.ok.inj h
    rfl
  | cons name l ih =>
    intro t h
    rw [List.mem_cons, not_or] at hk
    obtain ⟨u, hu, hl⟩ := Traced.result_foldlM_cons.1 h
    obtain ⟨x, -, hx⟩ := Traced.result_bind_ok.1 hu
    obtain rfl := Except.ok.inj hx
    rw [ih hk.2 hl, Table.get?_insert_of_ne _ _ hk.1]

theorem mem_foldlM_addValue {l : List String} {k : String} :
    ∀ {t : Table Float}, (l.foldlM (m.addValue i) t).result = .ok v → (k ∈ v ↔ k ∈ t ∨ k ∈ l) := by
  induction l with
  | nil =>
    intro t h
    obtain rfl := Except.ok.inj h
    simp
  | cons name l ih =>
    intro t h
    obtain ⟨u, hu, hl⟩ := Traced.result_foldlM_cons.1 h
    obtain ⟨x, -, hx⟩ := Traced.result_bind_ok.1 hu
    obtain rfl := Except.ok.inj hx
    rw [ih hl, Table.mem_insert, List.mem_cons, or_assoc, or_left_comm]

/-- The names in the table so far. -/
theorem mem_valuesSoFar {l : List String} {k : String}
    (h : (l.foldlM (m.addValue i) ∅).result = .ok v) : k ∈ v ↔ k ∈ l := by
  rw [mem_foldlM_addValue h]
  exact or_iff_right (by rintro ⟨⟩)

/-- Where a value of a table so far comes from. -/
theorem foldlM_addValue_split {before after : List String} (hnd : (before ++ name :: after).Nodup)
    (h : ((before ++ name :: after).foldlM (m.addValue i) ∅).result = .ok v) :
    ∃ results x, (before.foldlM (m.addValue i) ∅).result = .ok results ∧
      (m.valueOf i results name).result = .ok x ∧ v.get? name = some x ∧
      ∀ k ∈ before, v.get? k = results.get? k := by
  obtain ⟨-, hback, hdisj⟩ := List.nodup_append.1 hnd
  obtain ⟨hname, -⟩ := List.nodup_cons.1 hback
  obtain ⟨results, hres, h⟩ := Traced.result_foldlM_append.1 h
  obtain ⟨u, hu, h⟩ := Traced.result_foldlM_cons.1 h
  obtain ⟨x, hx, hpure⟩ := Traced.result_bind_ok.1 hu
  obtain rfl := Except.ok.inj hpure
  refine ⟨results, x, hres, hx, ?_, ?_⟩
  · rw [get?_foldlM_addValue hname h, Table.get?_insert_self]
  · intro k hk
    have hne : k ≠ name := hdisj k hk name (by simp)
    have hafter : k ∉ after := fun hka => hdisj k hk k (by simp [hka]) rfl
    rw [get?_foldlM_addValue hafter h, Table.get?_insert_of_ne _ _ hne]

/-- **Where a value comes from:** it was computed when the properties in front were known, and
they still have the values they had. -/
theorem valueTable_split (hm : m.Accepted) (h : (m.valueTable i).result = .ok v)
    {before after : List String} (hl : m.propertyOrder = before ++ name :: after) :
    ∃ results x, (before.foldlM (m.addValue i) ∅).result = .ok results ∧
      (m.valueOf i results name).result = .ok x ∧ v.get? name = some x ∧
      ∀ k ∈ before, v.get? k = results.get? k := by
  have hnd := hm.propertyOrder_ok.1
  unfold valueTable at h
  rw [hl] at hnd h
  exact foldlM_addValue_split hnd h

/-- **An override of the root** writes what it comes to in the values so far. -/
theorem overrideRoot_ok {u : Table Float} {e : String × Expr} :
    (m.overrideRoot t e).result = .ok u ↔ ∃ base x, t.get? e.1 = some base ∧
      (m.overridden e.1 e.2 { root := t, results := t, input := some [base] }).result = .ok x ∧
      u = t.insert e.1 x := by
  constructor
  · intro h
    obtain ⟨base, hbase, h⟩ := Traced.result_bind_ok.1 h
    obtain ⟨x, hx, hpure⟩ := Traced.result_bind_ok.1 h
    exact ⟨base, x, Derived.entry_ok.1 hbase, hx, (Except.ok.inj hpure).symm⟩
  · rintro ⟨base, x, hbase, hx, rfl⟩
    exact Traced.result_bind_ok.2
      ⟨base, Derived.entry_ok.2 hbase, Traced.result_bind_ok.2 ⟨x, hx, rfl⟩⟩

namespace Accepted

/-- The names in a finished table. -/
theorem mem_valueTable (hm : m.Accepted) (h : (m.valueTable i).result = .ok v) {k : String} :
    k ∈ v ↔ k ∈ m.definition.properties := by
  rw [← hm.propertyOrder_ok.2.1 k]
  exact mem_valuesSoFar h

theorem mem_outcome (hm : m.Accepted) (h : (m.valuation σ).outcome id = .ok v) {k : String} :
    k ∈ v ↔ k ∈ m.definition.properties := by
  obtain ⟨i, -, htable⟩ := outcome_valuation_ok.1 h
  exact hm.mem_valueTable htable

/-- The overrides of a scenario are of properties. -/
theorem override_property (hm : m.Accepted) {s node name : String} {e : Expr}
    (h : ((m.scenario s).overrides node).get? name = some e) : name ∈ m.definition.properties ∧
      e.Valid (m.definition.permissions s!"scenario '{s}'" overrideLacks) := by
  unfold Scenario.overrides Table.getD at h
  cases hs : m.definition.scenarios.get? s with
  | none =>
    have hblank : m.scenario s = Scenario.blank := by simp [scenario, Table.getD, hs]
    rw [hblank] at h
    cases h
  | some σ =>
    have hσ : m.scenario s = σ := by simp [scenario, Table.getD, hs]
    rw [hσ] at h
    cases ho : σ.overlay.get? node with
    | none =>
      rw [ho] at h
      cases h
    | some overrides =>
      rw [ho] at h
      exact (hm.scenarios s σ hs).overrides node overrides (Table.get?_eq_some_iff.1 ho) name e
        (Table.get?_eq_some_iff.1 h)

/-- The values that the root starts from. -/
theorem mem_given (hm : m.Accepted) {k : String} :
    k ∈ (m.definition.properties.map fun _ _ => 0.0).overlay m.definition.root ↔
      k ∈ m.definition.properties := by
  rw [Table.mem_overlay, Table.mem_iff (t := m.definition.properties.map fun _ _ => 0.0),
    Table.keys_map]
  exact or_iff_left_of_imp (hm.root k)

theorem mem_foldlM_overrideRoot {l : List (String × Expr)} {k : String}
    (hl : ∀ e ∈ l, e.1 ∈ m.definition.properties) :
    ∀ {t : Table Float}, (∀ k, k ∈ t ↔ k ∈ m.definition.properties) →
      (l.foldlM m.overrideRoot t).result = .ok v → (k ∈ v ↔ k ∈ m.definition.properties) := by
  induction l with
  | nil =>
    intro t ht h
    obtain rfl := Except.ok.inj h
    exact ht k
  | cons e l ih =>
    intro t ht h
    obtain ⟨u, hu, hrest⟩ := Traced.result_foldlM_cons.1 h
    obtain ⟨base, x, -, -, rfl⟩ := overrideRoot_ok.1 hu
    refine ih (fun e he => hl e (by simp [he])) (fun k => ?_) hrest
    rw [Table.mem_insert, ht]
    exact or_iff_right_of_imp fun hk => hk ▸ hl e (by simp)

/-- The overrides of the root are of properties. -/
theorem rootOverride_property (hm : m.Accepted) (s : String) :
    ∀ e ∈ ((m.scenario s).overrides rootId).entries, e.1 ∈ m.definition.properties := fun _ he =>
  (hm.override_property (Table.get?_eq_some_iff.2 he)).1

/-- **The names in the table of the root.** -/
theorem mem_rootOf (hm : m.Accepted) {s : String} (h : m.rootOf (m.scenario s) = .ok v)
    {k : String} : k ∈ v ↔ k ∈ m.definition.properties :=
  mem_foldlM_overrideRoot (hm.rootOverride_property s) (fun _ => hm.mem_given) h

/-- **The refs of a node that can be read** can be read, too. -/
theorem reading_ref {β : Type} {P : Propagation m β} (hm : m.Accepted) {b : β}
    (h : P.reading id = .ok b) {r : String} (hr : r ∈ m.refs id) : ∃ c, P.reading r = .ok c := by
  obtain ⟨-, hup⟩ := Propagation.reading_ok.1 h
  have hroot := (mem_refs.1 hr).1
  have hedge := (hm.mem_edges_iff hroot).2 hr
  obtain ⟨c, hc⟩ := hup r (hm.mem_upstream.2 ⟨TransGen.single hedge, hroot⟩)
  refine ⟨c, Propagation.reading_ok.2 ⟨hc, fun k hk => hup k ?_⟩⟩
  obtain ⟨hpath, hk⟩ := hm.mem_upstream.1 hk
  exact hm.mem_upstream.2 ⟨hpath.tail hedge, hk⟩

/-- The refs of a node that can be read have values. -/
theorem outcome_ref (hm : m.Accepted) {r : String} (h : (m.valuation σ).reading id = .ok v) (hr : r ∈ m.refs id) :
    ∃ u, (m.valuation σ).reading r = .ok u ∧ (m.valuation σ).settled.get? r = some u := by
  obtain ⟨u, hu⟩ := hm.reading_ref h hr
  exact ⟨u, hu, (Propagation.get?_settled_ref hm hr).2 (Propagation.reading_ok.1 hu).1⟩

/-- **A node can be read** if it has an outcome and its refs can be read. -/
theorem reading_of_refs {β : Type} {P : Propagation m β} (hm : m.Accepted) {b : β}
    (h : P.outcome id = .ok b) (hrefs : ∀ r ∈ m.refs id, ∃ c, P.reading r = .ok c) :
    P.reading id = .ok b := by
  refine Propagation.reading_ok.2 ⟨h, fun k hk => ?_⟩
  obtain ⟨hpath, hk⟩ := hm.mem_upstream.1 hk
  -- the last edge of the path comes from a ref of the node
  obtain ⟨r, hpath, hedge⟩ := TransGen.tail'_iff.1 hpath
  have hroot : r ≠ rootId := by
    rcases ReflTransGen.cases_tail_iff _ _ _ |>.1 hpath with rfl | ⟨_, -, he⟩
    · exact hk
    · exact hm.ne_root_of_mem_edges he
  obtain ⟨c, hc⟩ := hrefs r ((hm.mem_edges_iff hroot).1 hedge)
  obtain ⟨hout, hup⟩ := Propagation.reading_ok.1 hc
  rcases reflTransGen_iff_eq_or_transGen.1 hpath with rfl | hpath
  · exact ⟨c, hout⟩
  · exact hup k (hm.mem_upstream.2 ⟨hpath, hk⟩)

end Accepted

end Model

end ValuedGraph
