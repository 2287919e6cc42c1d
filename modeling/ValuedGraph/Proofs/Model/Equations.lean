import ValuedGraph.Proofs.Expr.Monotone
import ValuedGraph.Proofs.Model.Runs
import ValuedGraph.Proofs.Model.Tags

/-!
# The equations of values

A model says what every value is, in terms of values: those of the root, of refs, and of the
node itself. Reading solves these equations, although it goes through the properties one after
the other, sees results so far instead of final ones, and takes refs from what is memoized.

* `Model.BaseValue`, `Model.HasValue`: **what a value is,** given the final values of the root
  and of all nodes.
* `Model.Solves`: values that satisfy the equations of a node.
* `Model.hasValue_of_valueOf`: what is computed from results so far is a value.
* `values_solve_equations`: **the values that are read solve the equations,** and if all values
  can be read, nothing else does.
-/

namespace ValuedGraph

/-- **An expression reduces to a number.** -/
def Expr.ReducesTo (e : Expr) (c : Combiner) (s : Surroundings) (x : Float) : Prop :=
  ∃ xs, (e.evaluate s).result = .ok xs ∧ c.apply xs = .ok x

theorem Expr.ReducesTo.unique {e : Expr} {c : Combiner} {s : Surroundings} {x y : Float}
    (hx : e.ReducesTo c s x) (hy : e.ReducesTo c s y) : x = y := by
  obtain ⟨xs, hxs, hx⟩ := hx
  obtain ⟨ys, hys, hy⟩ := hy
  obtain rfl := Except.ok.inj (hxs.symm.trans hys)
  exact Except.ok.inj (hx.symm.trans hy)

theorem Expr.ReducesTo.mono {e : Expr} {c : Combiner} {s t : Surroundings} {x : Float}
    (h : e.ReducesTo c s x) (hst : s.Below t) : e.ReducesTo c t x := by
  obtain ⟨xs, hxs, hx⟩ := h
  exact ⟨xs, Expr.evaluate_mono hst hxs, hx⟩

theorem Derived.reduce_ok {c : Combiner} {e : Expr} {s : Surroundings} {x : Float} :
    (Derived.reduce c e s).result = .ok x ↔ e.ReducesTo c s x := by
  unfold Derived.reduce
  rw [Traced.result_mapError_ok, Traced.result_bind_ok]
  simp only [Eval.numeric_ok, Expr.ReducesTo]

/-- **What is written about a node:** the node itself, the overrides of the active scenario, the
edges of the node with the implied ones, and its tags for each property. -/
structure NodeView where
  node : Node
  overrides : Table Expr
  edges : List ExpandedEdge
  tags : Table TagMembership

/-- What the inputs of a node say about it. -/
def Model.Inputs.view (i : Model.Inputs) : NodeView := ⟨i.node, i.overrides, i.edges, i.tags⟩

namespace Model

section Equations

variable (m : Model) (V : String → Table Float) (id : String) (w : NodeView) (name : String)
  (p : Property) (t : TagMembership)

/-- **The value of a property without overrides.** `V` has the final values of all nodes, those
of the root under its id. -/
inductive BaseValue : Float → Prop where
  /-- a node without edges of the property's type takes the value of the root -/
  | inherited {x} (hedges : ∀ e ∈ w.edges, e.type ≠ name) (hwhen : p.calculateWhen ≠ .always)
      (hx : (V rootId).get? name = some x) : BaseValue x
  /-- otherwise the expression is reduced, with one slot for each edge of the type -/
  | computed {x} (hused : (∃ e ∈ w.edges, e.type = name) ∨ p.calculateWhen = .always)
      (hx : p.value.ReducesTo p.combiner
        { edges := (w.edges.filter fun e => e.type == name).map fun e => e.constantsOver p.constants
          refs := (w.edges.filter fun e => e.type == name).map fun e => V e.ref
          root := V rootId
          results := V id
          tags := t
          tagConstants := m.tagConstants } x) : BaseValue x

/-- **The value of a property of a node.** -/
inductive HasValue : Float → Prop where
  /-- a value that is given -/
  | given {x} (hx : w.node.values.get? name = some x) : HasValue x
  /-- a number that the scenario sets -/
  | number {x} (hnode : w.node.values.get? name = none)
      (hover : w.overrides.get? name = some (.literal [x])) : HasValue x
  /-- any other override is reduced; its input is the value that it replaces -/
  | overridden {x} {e : Expr} {input : Option (List Float)}
      (hnode : w.node.values.get? name = none) (hover : w.overrides.get? name = some e)
      (hplain : ∀ y, e ≠ .literal [y])
      (hinput : e.readsInput = true → ∃ b, BaseValue m V id w name p t b ∧ input = some [b])
      (hnone : e.readsInput = false → input = none)
      (hx : e.ReducesTo p.combiner
        { root := V rootId, results := V id, input, tags := t
          tagConstants := m.tagConstants } x) : HasValue x
  /-- a value without overrides -/
  | base {x} (hnode : w.node.values.get? name = none) (hover : w.overrides.get? name = none)
      (hx : BaseValue m V id w name p t x) : HasValue x

end Equations

variable {m : Model} {V : String → Table Float} {id name : String} {w : NodeView} {p : Property}
  {t : TagMembership} {x y : Float}

theorem BaseValue.unique (hx : m.BaseValue V id w name p t x) (hy : m.BaseValue V id w name p t y) :
    x = y := by
  cases hx with
  | inherited hedges hwhen hx =>
    cases hy with
    | inherited _ _ hy => exact Option.some.inj (hx.symm.trans hy)
    | computed hused _ =>
      rcases hused with ⟨e, he, ht⟩ | halways
      · exact absurd ht (hedges e he)
      · exact absurd halways hwhen
  | computed hused hx =>
    cases hy with
    | inherited hedges hwhen _ =>
      rcases hused with ⟨e, he, ht⟩ | halways
      · exact absurd ht (hedges e he)
      · exact absurd halways hwhen
    | computed _ hy => exact hx.unique hy

/-- **A property has one value.** -/
theorem HasValue.unique (hx : m.HasValue V id w name p t x) (hy : m.HasValue V id w name p t y) :
    x = y := by
  cases hx with
  | given hx =>
    cases hy with
    | given hy => exact Option.some.inj (hx.symm.trans hy)
    | number hnode | overridden hnode | base hnode => simp [hnode] at hx
  | number hnode hover =>
    cases hy with
    | given hy => simp [hnode] at hy
    | number _ hover' => simpa [hover] using hover'
    | overridden _ hover' hplain =>
      exact absurd (Option.some.inj (hover'.symm.trans hover)) (hplain x)
    | base _ hover' => simp [hover] at hover'
  | @overridden e input hnode hover hplain hinput hnone hx =>
    cases hy with
    | given hy => simp [hnode] at hy
    | number _ hover' => exact absurd (Option.some.inj (hover.symm.trans hover')) (hplain y)
    | @overridden e' input' _ hover' _ hinput' hnone' hy =>
      obtain rfl := Option.some.inj (hover.symm.trans hover')
      have heq : input = input' := by
        cases hreads : e.readsInput with
        | true =>
          obtain ⟨b, hb, rfl⟩ := hinput hreads
          obtain ⟨b', hb', rfl⟩ := hinput' hreads
          rw [hb.unique hb']
        | false => rw [hnone hreads, hnone' hreads]
      subst heq
      exact hx.unique hy
    | base _ hover' => simp [hover] at hover'
  | base hnode hover hx =>
    cases hy with
    | given hy => simp [hnode] at hy
    | number _ hover' | overridden _ hover' => simp [hover] at hover'
    | base _ _ hy => exact hx.unique hy

section Computed

variable {i : Inputs} {results : Table Float}

/-- The surroundings that are computed in see no more than the final values. -/
theorem surroundings_below {typed : List ExpandedEdge} {s : Surroundings}
    (hroot : i.root.Below (V rootId)) (hresults : results.Below (V id))
    (hrefs : ∀ e ∈ typed, ∀ u, (i.refValues e.ref).result = .ok u → u.Below (V e.ref))
    (h : (m.surroundings i p typed t results).result = .ok s) :
    s.Below
      { edges := typed.map fun e => e.constantsOver p.constants
        refs := typed.map fun e => V e.ref
        root := V rootId
        results := V id
        tags := t
        tagConstants := m.tagConstants } := by
  obtain ⟨refs, href, hpure⟩ := Traced.result_bind_ok.1 h
  obtain rfl := Except.ok.inj hpure
  -- everything but the refs is compared at once; the refs one by one
  refine ⟨rfl, ?_, hroot, hresults, rfl, rfl, rfl, rfl⟩
  have hall := Traced.result_mapM_ok.1 href
  clear h href hpure
  induction hall with
  | nil => exact List.Forall₂.nil
  | cons hu _ ih =>
    refine List.Forall₂.cons (hrefs _ (by simp) _ hu) ?_
    exact ih fun e he => hrefs e (by simp [he])

/-- **What is computed without overrides** from results so far is the value. -/
theorem baseValue_of_baseValue (hroot : i.root.Below (V rootId)) (hresults : results.Below (V id))
    (hrefs : ∀ e ∈ i.edges, ∀ u, (i.refValues e.ref).result = .ok u → u.Below (V e.ref))
    (h : (m.baseValue i name p t results).result = .ok x) : m.BaseValue V id i.view name p t x := by
  unfold baseValue at h
  simp only at h
  split at h
  · rename_i hnone
    simp only [Bool.and_eq_true, List.isEmpty_iff, List.filter_eq_nil_iff, beq_iff_eq] at hnone
    exact .inherited hnone.1 (by simp [hnone.2]) (hroot name x (Derived.entry_ok.1 h))
  · rename_i hsome
    obtain ⟨s, hs, hx⟩ := Traced.result_bind_ok.1 h
    refine .computed ?_ ((Derived.reduce_ok.1 hx).mono (surroundings_below hroot hresults ?_ hs))
    · by_cases hused : ∃ e ∈ i.edges, e.type = name
      · exact Or.inl hused
      · have hwhen : p.calculateWhen ≠ .edges := by
          intro hwhen
          refine hsome ?_
          simp only [Bool.and_eq_true, List.isEmpty_iff, List.filter_eq_nil_iff, beq_iff_eq]
          exact ⟨fun e he ht => hused ⟨e, he, ht⟩, hwhen⟩
        cases hc : p.calculateWhen with
        | edges => exact absurd hc hwhen
        | always => exact Or.inr rfl
    · exact fun e he => hrefs e (List.mem_filter.1 he).1

/-- **What an override comes to** is the value, if its input is the value that it replaces. -/
theorem hasValue_of_overridden {e : Expr} {input : Option (List Float)}
    (hroot : i.root.Below (V rootId)) (hresults : results.Below (V id))
    (hp : m.definition.properties.get? name = some p) (hnode : i.node.values.get? name = none)
    (hover : i.overrides.get? name = some e)
    (hinput : e.readsInput = true → ∃ b, m.BaseValue V id i.view name p t b ∧ input = some [b])
    (hnone : e.readsInput = false → input = none)
    (h : (m.overridden name e { root := i.root, results, input, tags := t }).result = .ok x) :
    m.HasValue V id i.view name p t x := by
  unfold overridden at h
  split at h
  · rename_i y hplain
    obtain rfl := Except.ok.inj h
    exact .number hnode (plainNumber?_eq_some.1 hplain ▸ hover)
  · rename_i hplain
    obtain ⟨p', hp', h⟩ := Traced.result_bind_ok.1 h
    obtain rfl := Option.some.inj (hp.symm.trans (Derived.entry_ok.1 hp'))
    have hnumber : ∀ y, e ≠ .literal [y] := fun y he => by
      rw [plainNumber?_eq_some.2 he] at hplain
      cases hplain
    exact .overridden hnode hover hnumber hinput hnone ((Derived.reduce_ok.1 h).mono
      ⟨rfl, List.Forall₂.nil, hroot, hresults, rfl, rfl, rfl, rfl⟩)

/-- **What is computed from results so far is the value.** -/
theorem hasValue_of_valueOf (hroot : i.root.Below (V rootId)) (hresults : results.Below (V id))
    (hrefs : ∀ e ∈ i.edges, ∀ u, (i.refValues e.ref).result = .ok u → u.Below (V e.ref))
    (hp : m.definition.properties.get? name = some p) (ht : i.tags.get? name = some t)
    (h : (m.valueOf i results name).result = .ok x) : m.HasValue V id i.view name p t x := by
  unfold valueOf at h
  cases hnode : i.node.values.get? name with
  | some y =>
    rw [hnode] at h
    obtain rfl := Except.ok.inj h
    exact .given hnode
  | none =>
    simp only [hnode] at h
    obtain ⟨p', hp', h⟩ := Traced.result_bind_ok.1 h
    obtain rfl := Option.some.inj (hp.symm.trans (Derived.entry_ok.1 hp'))
    obtain ⟨t', ht', h⟩ := Traced.result_bind_ok.1 h
    obtain rfl := Option.some.inj (ht.symm.trans (Derived.entry_ok.1 ht'))
    cases hover : i.overrides.get? name with
    | none =>
      simp only [hover] at h
      exact .base hnode hover (baseValue_of_baseValue hroot hresults hrefs h)
    | some e =>
      simp only [hover] at h
      split at h
      · rename_i hreads
        obtain ⟨b, hb, h⟩ := Traced.result_bind_ok.1 h
        have hbase := baseValue_of_baseValue hroot hresults hrefs hb
        exact hasValue_of_overridden hroot hresults hp hnode hover (fun _ => ⟨b, hbase, rfl⟩)
          (fun hn => by simp [hreads] at hn) h
      · rename_i hreads
        exact hasValue_of_overridden hroot hresults hp hnode hover (fun hr => absurd hr hreads)
          (fun _ => rfl) h

end Computed

/-- **What is read about a node,** its values apart. -/
structure Views (m : Model) (μ : Memo) (id : String) (w : NodeView) : Prop where
  node : m.definition.nodes.get? id = some w.node
  overrides : w.overrides = (m.scenario μ.scenario).overrides id
  edges : (m.edges id μ).result = .ok w.edges
  tags : (m.tags id μ).result = .ok w.tags

/-- A node is read in one way. -/
theorem Views.unique {μ : Memo} {w w' : NodeView} (h : m.Views μ id w) (h' : m.Views μ id w') :
    w = w' := by
  have hnode := Option.some.inj (h.node.symm.trans h'.node)
  have hover := h.overrides.trans h'.overrides.symm
  have hedges := Except.ok.inj (h.edges.symm.trans h'.edges)
  have htags := Except.ok.inj (h.tags.symm.trans h'.tags)
  obtain ⟨⟩ := w
  obtain ⟨⟩ := w'
  simp only at hnode hover hedges htags
  rw [hnode, hover, hedges, htags]

/-- **Values that satisfy the equations of a node:** one value for each property. -/
structure Solves (m : Model) (μ : Memo) (V : String → Table Float) (id : String) : Prop where
  keys : ∀ k, k ∈ V id ↔ k ∈ m.definition.properties
  equations : ∃ w, m.Views μ id w ∧ ∀ name p, m.definition.properties.get? name = some p →
    ∃ t x, w.tags.get? name = some t ∧ (V id).get? name = some x ∧ m.HasValue V id w name p t x

/-- The values that are read of a node or of the root. -/
def valuesIn (m : Model) (μ : Memo) (id : String) : Table Float :=
  match (m.values id μ).result with
  | .ok values => values
  | .error _ => ∅

theorem valuesIn_of_ok {μ : Memo} {v : Table Float} (h : (m.values id μ).result = .ok v) :
    m.valuesIn μ id = v := by
  simp [valuesIn, h]

end Model

variable {m : Model} {s id : String} {μ : Memo} {v : Table Float}

/-- **How the values of a node were computed,** in terms of what is read. -/
theorem inputs_of_values (hm : m.Accepted) (hμ : MemoOK m s μ) (hid : id ∈ m.definition.nodes)
    (h : (m.values id μ).result = .ok v) : ∃ i : Model.Inputs, m.Views μ id i.view ∧
      (m.values rootId μ).result = .ok i.root ∧ (m.valueTable i).result = .ok v ∧
      ∀ e ∈ i.edges, ∃ u, (i.refValues e.ref).result = .ok u ∧ (m.values e.ref μ).result = .ok u := by
  have hroot : id ≠ rootId := fun he => hm.root_not_mem (he ▸ hid)
  have hread : (m.valuation (m.scenario s)).reading id = .ok v := by
    rwa [(yields_values hm hμ id).result, Model.valuesOf, if_neg hroot] at h
  obtain ⟨hout, hup⟩ := Propagation.reading_ok.1 hread
  obtain ⟨i, hi, hout⟩ := Model.outcome_valuation_ok.1 hout
  obtain ⟨hnode, hover, hrootof, hedges, htags, hknown⟩ := Model.inputsFrom_ok.1 hi
  have hrootread : (m.values rootId μ).result = .ok i.root := by
    rw [(yields_values hm hμ rootId).result, Model.valuesOf, if_pos rfl, hrootof]
  refine ⟨i, ⟨hnode, ?_, ?_, ?_⟩, hrootread, hout, ?_⟩
  · rw [hμ.scenario]
    exact hover
  · rw [(yields_edges hμ id).result, hedges]
    rfl
  · rw [(yields_tags hm hμ id).result, htags]
    rfl
  · intro e he
    by_cases href : e.ref = rootId
    · exact ⟨i.root, by simp [Model.Inputs.refValues, href], href ▸ hrootread⟩
    -- a ref has settled values, and they are the ones that are read
    have hmem := Model.mem_refs_of_edgesOf hedges he href
    obtain ⟨u, hu, hset⟩ := hm.outcome_ref hread hmem
    refine ⟨u, ?_, by rw [(yields_values hm hμ e.ref).result, Model.valuesOf, if_neg href, hu]⟩
    rw [Model.Inputs.refValues, if_neg href, Derived.entry_ok, hknown, hset]

/-- A property of a node has a tag set. -/
theorem exists_tags_of_view (hm : m.Accepted) (hμ : MemoOK m s μ) {w : NodeView}
    (hw : m.Views μ id w) {name : String} (hname : name ∈ m.definition.properties) :
    ∃ t, w.tags.get? name = some t := by
  have htags : m.tagsOf id = .ok w.tags := by rw [← (yields_tags hm hμ id).result, hw.tags]
  exact Table.exists_get? ((Model.mem_tagsOf htags name).2 hname)

/-- **The values that are read of a node** satisfy its equations. -/
theorem solves_of_values (hm : m.Accepted) (hμ : MemoOK m s μ) (hid : id ∈ m.definition.nodes)
    (h : (m.values id μ).result = .ok v) : m.Solves μ (m.valuesIn μ) id := by
  obtain ⟨i, hview, hroot, htable, hrefs⟩ := inputs_of_values hm hμ hid h
  have hv := Model.valuesIn_of_ok h
  refine ⟨fun k => by rw [hv]; exact hm.mem_valueTable htable, i.view, hview, ?_⟩
  intro name p hp
  have hname : name ∈ m.definition.properties := Table.mem_of_get? hp
  obtain ⟨t, ht⟩ := exists_tags_of_view hm hμ hview hname
  obtain ⟨before, after, hl⟩ := List.append_of_mem ((hm.propertyOrder_ok.2.1 name).2 hname)
  obtain ⟨results, x, hres, hx, hvx, hkeep⟩ := Model.valueTable_split hm htable hl
  -- the results so far keep their values to the end
  have hbelow : results.Below (m.valuesIn μ id) := by
    intro k a ha
    have hk := (Model.mem_valuesSoFar hres).1 (Table.mem_of_get? ha)
    rw [hv, hkeep k hk, ha]
  refine ⟨t, x, ht, hv ▸ hvx, Model.hasValue_of_valueOf ?_ hbelow ?_ hp ht hx⟩
  · rw [Model.valuesIn_of_ok hroot]
    exact Table.Below.refl _
  · intro e he u hu
    obtain ⟨u', hu', hread⟩ := hrefs e he
    obtain rfl := Except.ok.inj (hu.symm.trans hu')
    rw [Model.valuesIn_of_ok hread]
    exact Table.Below.refl _

/-- **Values that satisfy the equations of a node** are those that are read, if they are for the
root and the refs of the node. -/
theorem eq_of_solves (hm : m.Accepted) (hμ : MemoOK m s μ) (hid : id ∈ m.definition.nodes)
    (h : (m.values id μ).result = .ok v) {V : String → Table Float}
    (hroot : V rootId = m.valuesIn μ rootId)
    (hrefs : ∀ r ∈ m.refs id, ∀ k, (V r).get? k = (m.valuesIn μ r).get? k)
    (hV : m.Solves μ V id) : ∀ k, (V id).get? k = (m.valuesIn μ id).get? k := by
  obtain ⟨i, hview, hrootread, htable, hirefs⟩ := inputs_of_values hm hμ hid h
  obtain ⟨w, hw, heq⟩ := hV.equations
  obtain rfl := hw.unique hview
  have hv := Model.valuesIn_of_ok h
  have hiroot : i.root.Below (V rootId) := by
    rw [hroot, Model.valuesIn_of_ok hrootread]
    exact Table.Below.refl _
  have hbelow : ∀ e ∈ i.edges, ∀ u, (i.refValues e.ref).result = .ok u → u.Below (V e.ref) := by
    intro e he u hu k a ha
    obtain ⟨u', hu', hread⟩ := hirefs e he
    obtain rfl := Except.ok.inj (hu.symm.trans hu')
    by_cases href : e.ref = rootId
    · rw [href, hroot, ← href, Model.valuesIn_of_ok hread, ha]
    · have hedges : m.edgesOf id = .ok i.edges := by
        rw [← (yields_edges hμ id).result, hview.edges]
        rfl
      rw [hrefs e.ref (Model.mem_refs_of_edgesOf hedges he href), Model.valuesIn_of_ok hread, ha]
  -- property by property: what is known in front of a property has its final value
  have key : ∀ name ∈ m.propertyOrder, (V id).get? name = v.get? name := by
    refine forall_mem_of_prefix fun before name after hl hbefore => ?_
    have hname := (hm.propertyOrder_ok.2.1 name).1 (by rw [hl]; simp)
    obtain ⟨p, hp⟩ := Table.exists_get? hname
    obtain ⟨results, x, hres, hx, hvx, hkeep⟩ := Model.valueTable_split hm htable hl
    have hresults : results.Below (V id) := by
      intro k a ha
      have hk := (Model.mem_valuesSoFar hres).1 (Table.mem_of_get? ha)
      rw [hbefore k hk, hkeep k hk, ha]
    obtain ⟨t, y, ht, hy, hval⟩ := heq name p hp
    have hcomp := Model.hasValue_of_valueOf hiroot hresults hbelow hp ht hx
    rw [hy, hvx, hval.unique hcomp]
  intro k
  rw [hv]
  by_cases hk : k ∈ m.definition.properties
  · exact key k ((hm.propertyOrder_ok.2.1 k).2 hk)
  · rw [Table.get?_eq_none_iff.2 fun hm' => hk ((hV.keys k).1 hm'),
      Table.get?_eq_none_iff.2 fun hm' => hk ((hm.mem_valueTable htable).1 hm')]

/-- **The values that are read are the solution of the equations.** Under every scenario and
after any run: if the values of a node can be read, so can those of the root and of all refs,
and they satisfy the equations of the node. If the values of all nodes can be read, no other
values satisfy the equations of all nodes. -/
theorem values_solve_equations {d : Definition} (h : d.accept = .ok m) (ops : List Operation) :
    let μ := m.run ops {}
    (∀ id ∈ d.nodes, ∀ v, (m.values id μ).result = .ok v →
      v = m.valuesIn μ id ∧ m.Solves μ (m.valuesIn μ) id ∧
        (∃ root, (m.values rootId μ).result = .ok root) ∧
        ∀ edges, (m.edges id μ).result = .ok edges →
          ∀ e ∈ edges, ∃ u, (m.values e.ref μ).result = .ok u) ∧
    ((∀ id ∈ d.nodes, ∃ v, (m.values id μ).result = .ok v) →
      ∀ V, V rootId = m.valuesIn μ rootId → (∀ id ∈ d.nodes, m.Solves μ V id) →
        ∀ id ∈ d.nodes, ∀ k, (V id).get? k = (m.valuesIn μ id).get? k) := by
  intro μ
  obtain ⟨hm, rfl⟩ := accepted_of_accept h
  have hμ : MemoOK m (m.active ops) μ := memoOK_run hm ops
  constructor
  · intro id hid v hv
    obtain ⟨i, hview, hroot, -, hrefs⟩ := inputs_of_values hm hμ hid hv
    refine ⟨(Model.valuesIn_of_ok hv).symm, solves_of_values hm hμ hid hv, ⟨_, hroot⟩, ?_⟩
    intro edges hedges e he
    obtain rfl := Except.ok.inj (hedges.symm.trans hview.edges)
    obtain ⟨u, -, hu⟩ := hrefs e he
    exact ⟨u, hu⟩
  · intro hall V hroot hV
    refine hm.node_induction fun id hid ih => ?_
    obtain ⟨v, hv⟩ := hall id hid
    exact eq_of_solves hm hμ hid hv hroot ih (hV id hid)

/-- The river in a drought. -/
theorem values_solve_equations_river : ∃ m, river.accept = .ok m ∧
    let μ := m.run [.enter "drought"] {}
    (∀ id ∈ river.nodes, ∀ v, (m.values id μ).result = .ok v →
      v = m.valuesIn μ id ∧ m.Solves μ (m.valuesIn μ) id ∧
        (∃ root, (m.values rootId μ).result = .ok root) ∧
        ∀ edges, (m.edges id μ).result = .ok edges →
          ∀ e ∈ edges, ∃ u, (m.values e.ref μ).result = .ok u) ∧
    ((∀ id ∈ river.nodes, ∃ v, (m.values id μ).result = .ok v) →
      ∀ V, V rootId = m.valuesIn μ rootId → (∀ id ∈ river.nodes, m.Solves μ V id) →
        ∀ id ∈ river.nodes, ∀ k, (V id).get? k = (m.valuesIn μ id).get? k) := by
  have h : river.accept = .ok _ := rfl
  exact ⟨_, h, values_solve_equations h _⟩

end ValuedGraph
