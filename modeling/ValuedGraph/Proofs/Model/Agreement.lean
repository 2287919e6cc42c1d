import ValuedGraph.Proofs.Model.Equations

/-!
# Values in two models

A value of a property is computed in two models, possibly with different results so far. It is
the same in both as soon as they agree on whatever the expressions of the property name. So the
tables of a node agree on a set of properties that is closed under what their expressions name,
in whichever orders the properties are computed.

* `Table.AgreeOn`: tables that agree on some names.
* `Model.Uses`: the expressions that the value of a property is computed from.
* `Model.Inputs.AgreeOn`: inputs of a node in two models that agree on some properties.
* `Model.valueOf_of_agreeOn`: **a value goes over to another model.**
* `Model.agreeOn_of_valueTable`, `Model.exists_valueTable`: **the values of a node** agree, and go
  over to another model if its order has in front what expressions read.
* `Model.agreeOn_of_foldlM_overrideRoot`, `Model.exists_foldlM_overrideRoot`: the same for the
  overrides of the root.
-/

namespace ValuedGraph

/-- **Tables that agree on some names.** -/
def Table.AgreeOn {α : Type} (t : Table α) (names : String → Prop) (u : Table α) : Prop :=
  ∀ k, names k → t.get? k = u.get? k

namespace Table.AgreeOn

variable {α : Type} {names names' : String → Prop} {t u : Table α}

theorem symm (h : t.AgreeOn names u) : u.AgreeOn names t := fun k hk => (h k hk).symm

theorem belowOn (h : t.AgreeOn names u) (hnames : ∀ k, names' k → names k) :
    t.BelowOn names' u := fun k hk _ ha => (h k (hnames k hk)).symm.trans ha

/-- A name that is written in both has the same value. -/
theorem insert (h : t.AgreeOn names u) (k : String) (a : α) :
    (t.insert k a).AgreeOn names (u.insert k a) := by
  intro j hj
  rw [Table.get?_insert, Table.get?_insert, h j hj]

/-- A name that does not matter may be written. -/
theorem insert_other (h : t.AgreeOn names u) {k : String} (hk : ¬ names k) (a b : α) :
    (t.insert k a).AgreeOn names (u.insert k b) := by
  intro j hj
  have hne : j ≠ k := fun he => hk (he ▸ hj)
  rw [Table.get?_insert_of_ne _ _ hne, Table.get?_insert_of_ne _ _ hne, h j hj]

end Table.AgreeOn

theorem Expr.ReducesTo.of_belowFor {e : Expr} {c : Combiner} {s t : Surroundings} {x : Float}
    (h : e.ReducesTo c s x) (hst : s.BelowFor e t) : e.ReducesTo c t x := by
  obtain ⟨xs, hxs, hx⟩ := h
  exact ⟨xs, Expr.evaluate_of_belowFor hst hxs, hx⟩

namespace Model

/-- **The expressions that the value of a property is computed from:** its own and its override. -/
inductive Uses (m : Model) (i : Inputs) (name : String) : Expr → Prop where
  | value {p : Property} (hp : m.definition.properties.get? name = some p) : Uses m i name p.value
  | override {e : Expr} (he : i.overrides.get? name = some e) : Uses m i name e

/-- **Inputs of a node in two models** that agree on some properties. -/
structure Inputs.AgreeOn (i : Inputs) (names : String → Prop) (i' : Inputs) : Prop where
  node : i.node = i'.node
  overrides : i.overrides.AgreeOn names i'.overrides
  edges : i.edges = i'.edges
  tags : ∀ k, i.tags.get? k = i'.tags.get? k
  root : i.root.AgreeOn names i'.root
  refs : ∀ e ∈ i.edges, ∃ u u', (i.refValues e.ref).result = .ok u ∧
    (i'.refValues e.ref).result = .ok u' ∧ u.AgreeOn names u'

variable {m m' : Model} {i i' : Inputs} {names : String → Prop} {name : String} {x : Float}
  {results results' v : Table Float}

theorem Inputs.AgreeOn.symm (h : i.AgreeOn names i') : i'.AgreeOn names i where
  node := h.node.symm
  overrides := h.overrides.symm
  edges := h.edges.symm
  tags k := (h.tags k).symm
  root := h.root.symm
  refs := by
    intro e he
    obtain ⟨u, u', hu, hu', hagree⟩ := h.refs e (h.edges ▸ he)
    exact ⟨u', u, hu', hu, hagree.symm⟩

/-- Inputs agree with themselves if the refs can be read. -/
theorem Inputs.AgreeOn.left (h : i.AgreeOn names i') : i.AgreeOn names i where
  node := rfl
  overrides _ _ := rfl
  edges := rfl
  tags _ := rfl
  root _ _ := rfl
  refs := by
    intro e he
    obtain ⟨u, -, hu, -⟩ := h.refs e he
    exact ⟨u, u, hu, hu, fun _ _ => rfl⟩

/-- **Models that agree on some properties,** whose expressions name no others. -/
structure AgreeOn (m : Model) (names : String → Prop) (m' : Model) : Prop where
  properties : m.definition.properties.AgreeOn names m'.definition.properties
  tagConstants : m.tagConstants = m'.tagConstants
  closed : ∀ name p, names name → m.definition.properties.get? name = some p →
    ∀ k, p.value.Names k → names k

theorem AgreeOn.symm (h : m.AgreeOn names m') : m'.AgreeOn names m where
  properties := h.properties.symm
  tagConstants := h.tagConstants.symm
  closed name p hname hp := h.closed name p hname ((h.properties name hname).trans hp)

theorem AgreeOn.left (h : m.AgreeOn names m') : m.AgreeOn names m where
  properties _ _ := rfl
  tagConstants := rfl
  closed := h.closed

/-- A property is computed from the same expressions in both models. -/
theorem AgreeOn.uses (h : m.AgreeOn names m') (hi : i.AgreeOn names i') (hname : names name)
    {e : Expr} (he : m.Uses i name e) : m'.Uses i' name e := by
  cases he with
  | value hp => exact .value ((h.properties name hname).symm.trans hp)
  | override he => exact .override ((hi.overrides name hname).symm.trans he)

section Values

variable {p : Property} {t : TagMembership} {e : Expr}

/-- The surroundings that an expression is evaluated in, in the other model. -/
theorem surroundings_of_agreeOn (htags : m.tagConstants = m'.tagConstants)
    (hi : i.AgreeOn names i') (hnames : ∀ k, e.Names k → names k)
    (hresults : results.BelowOn (fun k => .resultValue k ∈ e.walk) results')
    {typed : List ExpandedEdge} (htyped : ∀ e ∈ typed, e ∈ i.edges) {s : Surroundings}
    (h : (m.surroundings i p typed t results).result = .ok s) :
    ∃ s', (m'.surroundings i' p typed t results').result = .ok s' ∧ s.BelowFor e s' := by
  obtain ⟨refs, hrefs, hpure⟩ := Traced.result_bind_ok.1 h
  obtain rfl := Except.ok.inj hpure
  obtain ⟨refs', hrefs'⟩ := Traced.exists_mapM_ok (l := typed) (f := fun e => i'.refValues e.ref)
    fun e he => by
      obtain ⟨u, u', -, hu', -⟩ := hi.refs e (htyped e he)
      exact ⟨u', hu'⟩
  refine ⟨_, Traced.result_bind_ok.2 ⟨refs', hrefs', rfl⟩, rfl, ?_, ?_, hresults, rfl, rfl, rfl,
    htags⟩
  · -- ref by ref, the values agree on what the expression names
    have hall := Traced.result_mapM_ok.1 hrefs
    have hall' := Traced.result_mapM_ok.1 hrefs'
    clear h hrefs hrefs' hpure
    induction hall generalizing refs' with
    | nil =>
      cases hall'
      exact List.Forall₂.nil
    | @cons x u typed refs hu _ ih =>
      cases hall' with
      | cons hu' hall' =>
        obtain ⟨w, w', hw, hw', hagree⟩ := hi.refs x (htyped x (by simp))
        obtain rfl := Except.ok.inj (hu.symm.trans hw)
        obtain rfl := Except.ok.inj (hu'.symm.trans hw')
        exact List.Forall₂.cons (hagree.belowOn fun k hk => hnames k (Or.inl hk))
          (ih (fun y hy => htyped y (by simp [hy])) _ hall')
  · exact hi.root.belowOn fun k hk => hnames k (Or.inr (Or.inl hk))

/-- **A value without overrides** goes over to the other model. -/
theorem baseValue_of_agreeOn (htags : m.tagConstants = m'.tagConstants) (hi : i.AgreeOn names i')
    (hname : names name) (hnames : ∀ k, p.value.Names k → names k)
    (hresults : results.BelowOn (fun k => .resultValue k ∈ p.value.walk) results')
    (h : (m.baseValue i name p t results).result = .ok x) :
    (m'.baseValue i' name p t results').result = .ok x := by
  unfold baseValue at h ⊢
  simp only [← hi.edges] at h ⊢
  split at h
  · rename_i hnone
    rw [if_pos hnone, Derived.entry_ok, ← hi.root name hname]
    exact Derived.entry_ok.1 h
  · rename_i hsome
    obtain ⟨s, hs, hx⟩ := Traced.result_bind_ok.1 h
    obtain ⟨s', hs', hbelow⟩ := surroundings_of_agreeOn htags hi hnames hresults
      (fun e he => (List.mem_filter.1 he).1) hs
    rw [if_neg hsome]
    exact Traced.result_bind_ok.2
      ⟨s', hs', Derived.reduce_ok.2 ((Derived.reduce_ok.1 hx).of_belowFor hbelow)⟩

/-- **What an override comes to** goes over to the other model. -/
theorem overridden_of_belowFor (htags : m.tagConstants = m'.tagConstants)
    (hp : m.definition.properties.get? name = m'.definition.properties.get? name)
    {s s' : Surroundings} (hs : s.BelowFor e s') (h : (m.overridden name e s).result = .ok x) :
    (m'.overridden name e s').result = .ok x := by
  unfold overridden at h ⊢
  split
  · rename_i y hplain
    rw [hplain] at h
    exact h
  · rename_i hplain
    rw [hplain] at h
    obtain ⟨p, hget, hx⟩ := Traced.result_bind_ok.1 h
    refine Traced.result_bind_ok.2 ⟨p, Derived.entry_ok.2 (hp ▸ Derived.entry_ok.1 hget), ?_⟩
    refine Derived.reduce_ok.2 ((Derived.reduce_ok.1 hx).of_belowFor ?_)
    exact ⟨hs.edges, hs.refs, hs.root, hs.results, hs.input, hs.bindings, hs.tags, htags⟩

/-- **A value goes over to another model** that agrees on what the expressions of the property
name, if the results that they name are there. -/
theorem valueOf_of_agreeOn (hm : m.AgreeOn names m') (hi : i.AgreeOn names i')
    (hname : names name) (hnames : ∀ e, m.Uses i name e → ∀ k, e.Names k → names k)
    (hresults : ∀ e, m.Uses i name e →
      results.BelowOn (fun k => .resultValue k ∈ e.walk) results')
    (h : (m.valueOf i results name).result = .ok x) :
    (m'.valueOf i' results' name).result = .ok x := by
  unfold valueOf at h ⊢
  rw [← hi.node, ← hi.overrides name hname]
  split
  · rename_i y hvalue
    rw [hvalue] at h
    exact h
  rename_i hnone
  simp only [hnone] at h
  obtain ⟨p, hp, h⟩ := Traced.result_bind_ok.1 h
  obtain ⟨t, ht, h⟩ := Traced.result_bind_ok.1 h
  have hp := Derived.entry_ok.1 hp
  have huse : m.Uses i name p.value := .value hp
  have hbase : ∀ b, (m.baseValue i name p t results).result = .ok b →
      (m'.baseValue i' name p t results').result = .ok b := fun b =>
    baseValue_of_agreeOn hm.tagConstants hi hname (hnames _ huse) (hresults _ huse)
  refine Traced.result_bind_ok.2 ⟨p, Derived.entry_ok.2 ((hm.properties name hname).symm.trans hp), ?_⟩
  refine Traced.result_bind_ok.2 ⟨t, Derived.entry_ok.2 (hi.tags name ▸ Derived.entry_ok.1 ht), ?_⟩
  cases hover : i.overrides.get? name with
  | none =>
    simp only [hover] at h
    exact hbase x h
  | some e =>
    simp only [hover] at h
    have huse : m.Uses i name e := .override hover
    have hover : ∀ input,
        (m.overridden name e { root := i.root, results, input, tags := t }).result = .ok x →
        (m'.overridden name e
          { root := i'.root, results := results', input, tags := t }).result = .ok x := by
      intro input hx
      refine overridden_of_belowFor hm.tagConstants (hm.properties name hname) ?_ hx
      exact ⟨rfl, List.Forall₂.nil, hi.root.belowOn fun k hk => hnames e huse k (Or.inr (Or.inl hk)),
        hresults e huse, rfl, rfl, rfl, rfl⟩
    -- the input of the override is the value without it
    split at h
    · rename_i hreads
      obtain ⟨b, hb, hx⟩ := Traced.result_bind_ok.1 h
      simp only [hreads, if_true]
      exact Traced.result_bind_ok.2 ⟨b, hbase b hb, hover (some [b]) hx⟩
    · rename_i hreads
      simp only [hreads]
      exact hover none h

end Values

section Tables

/-- **The values of a node agree** with those so far in another model, in whichever order it
computes them. -/
theorem agreeOn_of_foldlM (hm : m.Accepted) (hm' : m'.Accepted) (hmm : m.AgreeOn names m')
    (hi : i.AgreeOn names i')
    (hover : ∀ name e, names name → i.overrides.get? name = some e → ∀ k, e.Names k → names k)
    (hv : (m.valueTable i).result = .ok v) {l rest : List String} (hl : m'.propertyOrder = l ++ rest)
    {w : Table Float} (hw : (l.foldlM (m'.addValue i') ∅).result = .ok w) :
    ∀ k ∈ l, names k → v.get? k = w.get? k := by
  have hnames : ∀ name, names name → ∀ e, m.Uses i name e → ∀ k, e.Names k → names k := by
    rintro name hname e (hp | he)
    · exact hmm.closed name _ hname hp
    · exact hover name e hname he
  refine forall_mem_of_prefix fun before name after hsplit hbefore hname => ?_
  -- both values are computed once more, from all values of the first model
  have hnd := hm'.propertyOrder_ok.1
  rw [hl, hsplit] at hnd
  rw [hsplit] at hw
  obtain ⟨results', x', hres', hx', hwx, hkeep'⟩ :=
    foldlM_addValue_split (List.nodup_append.1 hnd).1 hw
  have hmem : name ∈ m.definition.properties := by
    have hmem' : name ∈ m'.definition.properties :=
      (hm'.propertyOrder_ok.2.1 name).1 (by rw [hl, hsplit]; simp)
    rw [← Table.get?_isSome_iff] at hmem' ⊢
    rwa [hmm.properties name hname]
  obtain ⟨front, back, hl'⟩ := List.append_of_mem ((hm.propertyOrder_ok.2.1 name).2 hmem)
  obtain ⟨results, x, hres, hx, hvx, hkeep⟩ := valueTable_split hm hv hl'
  have hfull : (m.valueOf i v name).result = .ok x := by
    refine valueOf_of_agreeOn hmm.left hi.left hname (hnames name hname) (fun e _ => ?_) hx
    refine Table.Below.on (fun k a ha => ?_) _
    rw [hkeep k ((mem_valuesSoFar hres).1 (Table.mem_of_get? ha)), ha]
  have hfull' : (m.valueOf i v name).result = .ok x' := by
    have huses : ∀ e, m'.Uses i' name e → m.Uses i name e := fun e =>
      hmm.symm.uses hi.symm hname
    refine valueOf_of_agreeOn hmm.symm hi.symm hname
      (fun e he => hnames name hname e (huses e he)) (fun e he k hk a ha => ?_) hx'
    have hkb := (mem_valuesSoFar hres').1 (Table.mem_of_get? ha)
    have hkn := hnames name hname e (huses e he) k (Or.inr (Or.inr hk))
    rw [hbefore k hkb hkn, hkeep' k hkb, ha]
  rw [hvx, hwx, Except.ok.inj (hfull.symm.trans hfull')]

/-- **The values of a node agree in both models,** if they can be computed in both. -/
theorem agreeOn_of_valueTable (hm : m.Accepted) (hm' : m'.Accepted) (hmm : m.AgreeOn names m')
    (hi : i.AgreeOn names i')
    (hover : ∀ name e, names name → i.overrides.get? name = some e → ∀ k, e.Names k → names k)
    (hv : (m.valueTable i).result = .ok v) {v' : Table Float}
    (hv' : (m'.valueTable i').result = .ok v') : v.AgreeOn names v' := by
  intro k hk
  by_cases hmem : k ∈ m'.definition.properties
  · exact agreeOn_of_foldlM hm hm' hmm hi hover hv (List.append_nil _).symm hv' k
      ((hm'.propertyOrder_ok.2.1 k).2 hmem) hk
  · have hmem' : k ∉ m.definition.properties := by
      rw [← Table.get?_eq_none_iff] at hmem ⊢
      rwa [hmm.properties k hk]
    rw [Table.get?_eq_none_iff.2 fun h => hmem ((hm'.mem_valueTable hv').1 h),
      Table.get?_eq_none_iff.2 fun h => hmem' ((hm.mem_valueTable hv).1 h)]

/-- **The values of a node can be computed in another model** that agrees on all properties, if the
results that an expression names are in front there whenever they are here. -/
theorem exists_valueTable (hm : m.Accepted) (hm' : m'.Accepted) (hmm : m.AgreeOn (fun _ => True) m')
    (hi : i.AgreeOn (fun _ => True) i')
    (hfront : ∀ name e, m.Uses i name e → ∀ k, .resultValue k ∈ e.walk →
      m.InFront k name → m'.InFront k name)
    (hv : (m.valueTable i).result = .ok v) : ∃ v', (m'.valueTable i').result = .ok v' := by
  cases hv' : (m'.valueTable i').result with
  | ok v' => exact ⟨v', rfl⟩
  | error f =>
    -- the first value that fails here has not failed there
    obtain ⟨before, name, after, results', hl', hres', hstep⟩ := Traced.result_foldlM_error hv'
    have hfail : (m'.valueOf i' results' name).result = .error f := by
      rcases Traced.result_bind_error.1 hstep with hfail | ⟨x, -, hpure⟩
      · exact hfail
      · cases hpure
    have hmem : name ∈ m.definition.properties := by
      have hmem' := (hm'.propertyOrder_ok.2.1 name).1 (by rw [hl']; simp)
      rw [← Table.get?_isSome_iff] at hmem' ⊢
      rwa [hmm.properties name trivial]
    obtain ⟨front, back, hl⟩ := List.append_of_mem ((hm.propertyOrder_ok.2.1 name).2 hmem)
    obtain ⟨results, x, hres, hx, -, hkeep⟩ := valueTable_split hm hv hl
    have hgoes : (m'.valueOf i' results' name).result = .ok x := by
      refine valueOf_of_agreeOn hmm hi trivial (fun _ _ _ _ => trivial) (fun e he k hk a ha => ?_) hx
      have hkf := (mem_valuesSoFar hres).1 (Table.mem_of_get? ha)
      have hkb := (hm'.inFront_iff hl').1 (hfront name e he k hk ((hm.inFront_iff hl).2 hkf))
      have hagree := agreeOn_of_foldlM hm hm' hmm hi (fun _ _ _ _ _ _ => trivial) hv hl' hres' k hkb
        trivial
      rw [← hagree, hkeep k hkf, ha]
    rw [hgoes] at hfail
    cases hfail

/-- An override of the root goes over to the other model. -/
theorem overrideRoot_of_agreeOn (hmm : m.AgreeOn names m') {t t' u : Table Float}
    (ht : t.AgreeOn names t') {e : String × Expr} (hname : names e.1)
    (hnames : ∀ k, e.2.Names k → names k) (h : (m.overrideRoot t e).result = .ok u) :
    ∃ u', (m'.overrideRoot t' e).result = .ok u' ∧ u.AgreeOn names u' := by
  obtain ⟨base, x, hbase, hx, rfl⟩ := overrideRoot_ok.1 h
  refine ⟨t'.insert e.1 x, overrideRoot_ok.2 ⟨base, x, (ht e.1 hname).symm.trans hbase, ?_, rfl⟩,
    ht.insert e.1 x⟩
  refine overridden_of_belowFor hmm.tagConstants (hmm.properties e.1 hname) ?_ hx
  exact ⟨rfl, List.Forall₂.nil, ht.belowOn fun k hk => hnames k (Or.inr (Or.inl hk)),
    ht.belowOn fun k hk => hnames k (Or.inr (Or.inr hk)), rfl, rfl, rfl, rfl⟩

/-- **The values of the root agree** in models with the same properties and the same given values,
under scenarios with the same overrides of the root. -/
theorem agreeOn_of_foldlM_overrideRoot (hmm : m.AgreeOn names m') {l : List (String × Expr)}
    (hover : ∀ e ∈ l, names e.1 → ∀ k, e.2.Names k → names k) {t t' u u' : Table Float}
    (ht : t.AgreeOn names t') (hu : (l.foldlM m.overrideRoot t).result = .ok u)
    (hu' : (l.foldlM m'.overrideRoot t').result = .ok u') : u.AgreeOn names u' := by
  refine Traced.foldlM_related (R := fun t t' => t.AgreeOn names t') ?_ ht hu hu'
  intro e he t t' u u' ht hu hu'
  by_cases hname : names e.1
  · obtain ⟨w, hw, hagree⟩ := overrideRoot_of_agreeOn hmm ht hname (hover e he hname) hu
    obtain rfl := Except.ok.inj (hu'.symm.trans hw)
    exact hagree
  · obtain ⟨-, x, -, -, rfl⟩ := overrideRoot_ok.1 hu
    obtain ⟨-, x', -, -, rfl⟩ := overrideRoot_ok.1 hu'
    exact ht.insert_other hname x x'

theorem exists_foldlM_overrideRoot (hmm : m.AgreeOn (fun _ => True) m') {l : List (String × Expr)}
    {t t' u : Table Float} (ht : t.AgreeOn (fun _ => True) t')
    (hu : (l.foldlM m.overrideRoot t).result = .ok u) :
    ∃ u', (l.foldlM m'.overrideRoot t').result = .ok u' :=
  Traced.exists_foldlM_ok (R := fun t t' => t.AgreeOn (fun _ => True) t')
    (fun _ _ => fun ht hu => overrideRoot_of_agreeOn hmm ht trivial (fun _ _ => trivial) hu) ht hu

end Tables

end Model

end ValuedGraph
