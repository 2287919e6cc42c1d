import ValuedGraph.Proofs.Expr.Violations
import ValuedGraph.Proofs.Model.RootOverrides

/-!
# Two models that correspond

Two models may say the same about some nodes, and about some properties. If the nodes are closed
under refs, and the properties under what their expressions name, then whatever is read of those
nodes is the same in both: edges, tags and the values of those properties.

* `Model.Alike`: models that say the same about some nodes.
* `Model.Alike.edgesOf_eq`, `Model.Alike.tagsOf_agree`: **edges and tags** are the same.
* `Model.Correspond`: models that also say the same about some properties, each under a scenario.
* `Model.Correspond.valuesOf_agreeOn`: **values that can be read in both models agree.**
* `Model.Correspond.sameReading`: if the models say the same about all properties, and overrides
  find the same results in front, values can be read in both models or in neither.
-/

namespace ValuedGraph

open Relation

/-- **What a property contributes to edges and tags.** -/
def Property.flow (p : Property) : List String × Table Float × Bool :=
  (p.implies, p.constants, p.extendTags)

/-- **Two readings of values with the same outcome:** the same values, or failures. -/
inductive SameReading : Except ReadFailure (Table Float) → Except ReadFailure (Table Float) → Prop where
  | values {v v' : Table Float} (h : ∀ k, v.get? k = v'.get? k) : SameReading (.ok v) (.ok v')
  | failures (f f' : ReadFailure) : SameReading (.error f) (.error f')

namespace Model

/-- **Models that say the same about some nodes,** which are closed under refs. -/
structure Alike (m m' : Model) (ids : String → Prop) : Prop where
  left : m.Accepted
  right : m'.Accepted
  nodes : ∀ id, ids id → m.definition.nodes.get? id = m'.definition.nodes.get? id
  refs : ∀ id, ids id → ∀ r ∈ m.refs id, ids r
  flow : ∀ name, (m.definition.properties.get? name).map Property.flow =
    (m'.definition.properties.get? name).map Property.flow

namespace Alike

variable {m m' : Model} {ids : String → Prop} {id name : String}

theorem refs_eq (h : m.Alike m' ids) (hid : ids id) : m.refs id = m'.refs id := by
  unfold Model.refs
  rw [h.nodes id hid]

theorem symm (h : m.Alike m' ids) : m'.Alike m ids where
  left := h.right
  right := h.left
  nodes id hid := (h.nodes id hid).symm
  refs id hid r hr := h.refs id hid r (h.refs_eq hid ▸ hr)
  flow name := (h.flow name).symm

/-- Both models have the same names of properties. -/
theorem mem_properties (h : m.Alike m' ids) :
    name ∈ m.definition.properties ↔ name ∈ m'.definition.properties := by
  rw [← Table.get?_isSome_iff, ← Table.get?_isSome_iff, ← Option.isSome_map (f := Property.flow),
    h.flow, Option.isSome_map]

theorem mem_nodes (h : m.Alike m' ids) (hid : ids id) :
    id ∈ m.definition.nodes ↔ id ∈ m'.definition.nodes := by
  rw [← Table.get?_isSome_iff, ← Table.get?_isSome_iff, h.nodes id hid]

/-- What is done with a property is the same if it only depends on the flow. -/
theorem property_bind (h : m.Alike m' ids) {β : Type} {f : Property → Derived β}
    (hf : ∀ p p' : Property, p.flow = p'.flow → f p = f p') (name : String) :
    (m.property name >>= f) = (m'.property name >>= f) := by
  have hflow := h.flow name
  unfold Model.property Derived.entry
  cases hp : m.definition.properties.get? name with
  | none =>
    cases hp' : m'.definition.properties.get? name with
    | none => rfl
    | some p' => simp [hp, hp'] at hflow
  | some p =>
    cases hp' : m'.definition.properties.get? name with
    | none => simp [hp, hp'] at hflow
    | some p' =>
      simp only [hp, hp', Option.map_some, Option.some.injEq] at hflow
      simp only [pure_bind]
      exact hf p p' hflow

theorem impliedEdges_eq (h : m.Alike m' ids) (ref : String) (authored : List ExpandedEdge) :
    m.impliedEdges id ref authored = m'.impliedEdges id ref authored := by
  have himplies : ∀ t, (do return (← m.property t).implies : Derived (List String)) =
      do return (← m'.property t).implies := fun t =>
    h.property_bind (fun p p' hp => by rw [show p.implies = p'.implies from congrArg Prod.fst hp]) t
  have hconstants : ∀ type, (do
        let p ← m.property type
        return { source := id, ref, type, constants := p.constants, implied := true } :
          Derived ExpandedEdge) = do
        let p ← m'.property type
        return { source := id, ref, type, constants := p.constants, implied := true } := fun type =>
    h.property_bind (fun p p' hp => by
      rw [show p.constants = p'.constants from congrArg (fun x => x.2.1) hp]) type
  unfold impliedEdges impliedTypes
  simp only [himplies, hconstants]

/-- **The edges of a node** are the same in both models. -/
theorem expandedEdges_eq (h : m.Alike m' ids) (hid : ids id) :
    m.expandedEdges id = m'.expandedEdges id := by
  have hnode : m.node id = m'.node id := by
    unfold Model.node Derived.entry
    rw [h.nodes id hid]
  unfold expandedEdges
  simp only [hnode, h.impliedEdges_eq]

theorem edgesOf_eq (h : m.Alike m' ids) (hid : ids id) : m.edgesOf id = m'.edgesOf id := by
  unfold edgesOf
  rw [h.expandedEdges_eq hid]

/-- The tags for a property, if the tags of refs for it are the same. -/
theorem tagsFor_eq {own : List String} {edges : List ExpandedEdge}
    {known known' : Table (Table TagMembership)} {p p' : Property} (hp : p.flow = p'.flow)
    (hknown : ∀ e ∈ edges, e.ref ≠ rootId → ∃ t t', known.get? e.ref = some t ∧
      known'.get? e.ref = some t' ∧ t.get? name = t'.get? name) :
    tagsFor own edges known name p = tagsFor own edges known' name p' := by
  have hextend : p.extendTags = p'.extendTags := congrArg (fun x => x.2.2) hp
  have hmap := Traced.mapM_congr
    (l := edges.filter fun e => e.type == name && e.ref != rootId)
    (f := fun e => do
      return (← Derived.entry (← Derived.entry known e.ref) name).all)
    (g := fun e => do
      return (← Derived.entry (← Derived.entry known' e.ref) name).all)
    fun e he => by
      obtain ⟨hmem, hcond⟩ := List.mem_filter.1 he
      obtain ⟨t, t', ht, ht', hsame⟩ := hknown e hmem (by simp_all)
      simp only [Derived.entry, ht, ht', pure_bind, hsame]
  unfold tagsFor
  simp only [hextend, hmap]

/-- **The tags of a node** are the same in both models, for every property. -/
theorem tagging_agree (h : m.Alike m' ids) : ∀ id ∈ m.definition.nodes, ids id →
    ∀ {t t'}, m.tagging.outcome id = .ok t → m'.tagging.outcome id = .ok t' →
      ∀ k, t.get? k = t'.get? k := by
  refine h.left.node_induction fun id hid ih hn t t' ht ht' k => ?_
  obtain ⟨edges, hedges⟩ := h.left.exists_edgesOf (Or.inr hid)
  have hedges' := (h.edgesOf_eq hn).symm.trans hedges
  rw [outcome_tagging, hedges] at ht
  rw [outcome_tagging, hedges'] at ht'
  obtain ⟨n, hnode, ht⟩ := Traced.result_bind_ok.1 ht
  obtain ⟨n', hnode', ht'⟩ := Traced.result_bind_ok.1 ht'
  obtain rfl := Option.some.inj ((Derived.entry_ok.1 hnode).symm.trans
    ((h.nodes id hn).trans (Derived.entry_ok.1 hnode')))
  rw [Traced.result_traverse] at ht ht'
  have hflow := h.flow k
  cases hp : m.definition.properties.get? k with
  | none =>
    have hmem : k ∉ m.definition.properties := Table.get?_eq_none_iff.1 hp
    rw [Table.get?_eq_none_iff.2 fun hk => hmem ((Table.mem_of_traverse ht).1 hk),
      Table.get?_eq_none_iff.2 fun hk => hmem (h.mem_properties.2 ((Table.mem_of_traverse ht').1 hk))]
  | some p =>
    obtain ⟨p', hp'⟩ := Table.exists_get? (h.mem_properties.1 (Table.mem_of_get? hp))
    simp only [hp, hp', Option.map_some, Option.some.injEq] at hflow
    obtain ⟨b, hb, hget⟩ := Table.exists_of_traverse ht hp
    obtain ⟨b', hb', hget'⟩ := Table.exists_of_traverse ht' hp'
    -- the refs of the node have the same tags already
    have hsame : tagsFor n.tags edges m.tagging.settled k p =
        tagsFor n.tags edges m'.tagging.settled k p' := by
      refine tagsFor_eq hflow fun e he hroot => ?_
      have hr := mem_refs_of_edgesOf hedges he hroot
      have hr' : e.ref ∈ m'.refs id := h.refs_eq hn ▸ hr
      have hrn := h.refs id hn _ hr
      obtain ⟨u, hu⟩ := h.left.exists_tagging e.ref (h.left.mem_of_mem_refs hr)
      obtain ⟨u', hu'⟩ := h.right.exists_tagging e.ref (h.right.mem_of_mem_refs hr')
      exact ⟨u, u', (Propagation.get?_settled_ref h.left hr).2 hu,
        (Propagation.get?_settled_ref h.right hr').2 hu', ih e.ref hr hrn hu hu' k⟩
    rw [hsame] at hb
    rw [hget, hget', Except.ok.inj (hb.symm.trans hb')]

theorem tagsOf_agree (h : m.Alike m' ids) (hid : id ∈ m.definition.nodes) (hn : ids id)
    {t t' : Table TagMembership} (ht : m.tagsOf id = .ok t) (ht' : m'.tagsOf id = .ok t') (k : String) :
    t.get? k = t'.get? k := by
  have hroot : id ≠ rootId := fun he => h.left.root_not_mem (he ▸ hid)
  unfold tagsOf at ht ht'
  rw [if_neg hroot] at ht ht'
  exact h.tagging_agree id hid hn (Propagation.reading_ok.1 ht).1 (Propagation.reading_ok.1 ht').1 k

/-- The tags of a node have the same order, too, if the properties do. -/
theorem tagsOf_eq (h : m.Alike m' ids)
    (hkeys : m.definition.properties.keys = m'.definition.properties.keys)
    (hid : id ∈ m.definition.nodes) (hn : ids id) : m.tagsOf id = m'.tagsOf id := by
  obtain ⟨t, ht⟩ := h.left.exists_tagsOf (Or.inr hid)
  obtain ⟨t', ht'⟩ := h.right.exists_tagsOf (Or.inr ((h.mem_nodes hn).1 hid))
  have hkeys : t.keys = t'.keys := by rw [keys_tagsOf ht, keys_tagsOf ht', hkeys]
  rw [ht, ht', Table.ext_get? hkeys (h.tagsOf_agree hid hn ht ht')]

end Alike

/-- **Models that say the same** about some nodes and some properties, each under a scenario. The
nodes are closed under refs, the properties under what expressions and overrides of them name. The
overrides of the root may be written in two orders, if what they name stays in front. -/
structure Correspond (m m' : Model) (σ σ' : Scenario) (ids names : String → Prop) : Prop where
  alike : m.Alike m' ids
  agree : m.AgreeOn names m'
  given : m.definition.root = m'.definition.root
  root : (σ.overrides rootId).SameFront (σ'.overrides rootId)
  overrides : ∀ id, ids id → (σ.overrides id).AgreeOn names (σ'.overrides id)
  closed : ∀ id, id = rootId ∨ ids id → ∀ name e, names name →
    (σ.overrides id).get? name = some e → ∀ k, e.Names k → names k

/-- **Models with the same properties** say the same about all of them where they are alike. -/
theorem Alike.correspond {m m' : Model} {ids : String → Prop} (h : m.Alike m' ids)
    (hproperties : ∀ name, m.definition.properties.get? name = m'.definition.properties.get? name)
    (hgiven : m.definition.root = m'.definition.root) (htags : m.definition.tags = m'.definition.tags)
    {σ σ' : Scenario} (hroot : (σ.overrides rootId).SameFront (σ'.overrides rootId))
    (hoverrides : ∀ id, ids id → ∀ name,
      (σ.overrides id).get? name = (σ'.overrides id).get? name) :
    m.Correspond m' σ σ' ids fun _ => True where
  alike := h
  agree :=
    { properties := fun name _ => hproperties name
      tagConstants := by rw [Model.tagConstants, Model.tagConstants, htags]
      closed := fun _ _ _ _ _ _ => trivial }
  given := hgiven
  root := hroot
  overrides id hid name _ := hoverrides id hid name
  closed _ _ _ _ _ _ _ _ := trivial

/-- The results that the value of a property refers to are those of its dependencies. -/
theorem Accepted.dependsOn_of_value {m : Model} (hm : m.Accepted) {name k : String} {p : Property}
    (hp : m.definition.properties.get? name = some p) (hk : .resultValue k ∈ p.value.walk) :
    m.definition.DependsOn name k := by
  obtain ⟨path, hvalid⟩ := (hm.properties name p hp).value
  exact ⟨p, hp, Expr.mem_of_violation rfl (Expr.validate_ok.1 hvalid) hk⟩

namespace Correspond

variable {m m' : Model} {σ σ' : Scenario} {ids names : String → Prop} {id : String}

theorem symm (h : m.Correspond m' σ σ' ids names) : m'.Correspond m σ' σ ids names where
  alike := h.alike.symm
  agree := h.agree.symm
  given := h.given.symm
  root := h.root.symm
  overrides id hid := (h.overrides id hid).symm
  closed := by
    rintro id (rfl | hid) name e hname he
    · exact h.closed rootId (Or.inl rfl) name e hname ((h.root.same name).trans he)
    · rw [← h.overrides id hid name hname] at he
      exact h.closed id (Or.inr hid) name e hname he

/-- The values that the root starts from are the same. -/
theorem given_agreeOn (h : m.Correspond m' σ σ' ids names) :
    ((m.definition.properties.map fun _ _ => 0.0).overlay m.definition.root).AgreeOn names
      ((m'.definition.properties.map fun _ _ => 0.0).overlay m'.definition.root) := by
  intro k _
  have hzero : (m.definition.properties.map fun _ _ => (0.0 : Float)).get? k =
      (m'.definition.properties.map fun _ _ => (0.0 : Float)).get? k := by
    have hflow := congrArg (Option.map fun _ => (0.0 : Float)) (h.alike.flow k)
    simpa only [Table.get?_map, Option.map_map, Function.comp_def] using hflow
  rw [Table.get?_overlay, Table.get?_overlay, h.given, hzero]

/-- **The values of the root agree.** -/
theorem rootOf_agreeOn (h : m.Correspond m' σ σ' ids names) {v v' : Table Float}
    (hv : m.rootOf σ = .ok v) (hv' : m'.rootOf σ' = .ok v') : v.AgreeOn names v' := by
  -- in the order of the other scenario, the overrides come to the same in the first model
  have hv := rootOf_of_sameFront h.root hv
  unfold rootOf rootTable at hv hv'
  refine agreeOn_of_foldlM_overrideRoot h.agree (fun e he hname => ?_) h.given_agreeOn hv hv'
  have hget := (h.root.same e.1).trans (Table.get?_eq_some_iff.2 he)
  exact h.closed rootId (Or.inl rfl) e.1 e.2 hname hget

/-- What the values of a node are computed from agrees if the values of its refs do. -/
theorem inputs_agreeOn (h : m.Correspond m' σ σ' ids names) (hid : ids id) {i i' : Inputs}
    (hi : m.inputsOf σ id = .ok i) (hi' : m'.inputsOf σ' id = .ok i')
    (hrefs : ∀ r ∈ m.refs id, ∃ u u', (m.valuation σ).settled.get? r = some u ∧
      (m'.valuation σ').settled.get? r = some u' ∧ u.AgreeOn names u') : i.AgreeOn names i' := by
  obtain ⟨hnode, hover, hroot, hedges, htags, hknown⟩ := inputsFrom_ok.1 hi
  obtain ⟨hnode', hover', hroot', hedges', htags', hknown'⟩ := inputsFrom_ok.1 hi'
  have hsame := h.rootOf_agreeOn hroot hroot'
  constructor
  case node => exact Option.some.inj (hnode.symm.trans ((h.alike.nodes id hid).trans hnode'))
  case overrides =>
    rw [hover, hover']
    exact h.overrides id hid
  case edges => exact Except.ok.inj (hedges.symm.trans ((h.alike.edgesOf_eq hid).trans hedges'))
  case tags => exact h.alike.tagsOf_agree (Table.mem_of_get? hnode) hid htags htags'
  case root => exact hsame
  case refs =>
    intro e he
    unfold Inputs.refValues
    by_cases href : e.ref = rootId
    · rw [if_pos href, if_pos href]
      exact ⟨i.root, i'.root, rfl, rfl, hsame⟩
    · obtain ⟨u, u', hu, hu', hagree⟩ := hrefs e.ref (mem_refs_of_edgesOf hedges he href)
      rw [if_neg href, if_neg href, hknown, hknown']
      exact ⟨u, u', Derived.entry_ok.2 hu, Derived.entry_ok.2 hu', hagree⟩

/-- **Values that can be read in both models agree,** node by node. -/
theorem reading_agreeOn (h : m.Correspond m' σ σ' ids names) :
    ∀ id ∈ m.definition.nodes, ids id → ∀ {v v'}, (m.valuation σ).reading id = .ok v →
      (m'.valuation σ').reading id = .ok v' → v.AgreeOn names v' := by
  refine h.alike.left.node_induction fun id hid ih hn v v' hv hv' => ?_
  have hout := (Propagation.reading_ok.1 hv).1
  have hout' := (Propagation.reading_ok.1 hv').1
  obtain ⟨i, hi, hout⟩ := outcome_valuation_ok.1 hout
  obtain ⟨i', hi', hout'⟩ := outcome_valuation_ok.1 hout'
  have hagree := h.inputs_agreeOn hn hi hi' fun r hr => by
    obtain ⟨u, hu, hset⟩ := h.alike.left.outcome_ref hv hr
    obtain ⟨u', hu', hset'⟩ := h.alike.right.outcome_ref hv' (h.alike.refs_eq hn ▸ hr)
    exact ⟨u, u', hset, hset', ih r hr (h.alike.refs id hn r hr) hu hu'⟩
  obtain ⟨-, hover, -⟩ := inputsFrom_ok.1 hi
  refine agreeOn_of_valueTable h.alike.left h.alike.right h.agree hagree ?_ hout hout'
  rw [hover]
  exact h.closed id (Or.inr hn)

theorem valuesOf_agreeOn (h : m.Correspond m' σ σ' ids names)
    (hid : id = rootId ∨ id ∈ m.definition.nodes ∧ ids id) {v v' : Table Float}
    (hv : m.valuesOf σ id = .ok v) (hv' : m'.valuesOf σ' id = .ok v') : v.AgreeOn names v' := by
  unfold valuesOf at hv hv'
  by_cases hroot : id = rootId
  · rw [if_pos hroot] at hv hv'
    exact h.rootOf_agreeOn hv hv'
  · rw [if_neg hroot] at hv hv'
    obtain ⟨hid, hn⟩ := hid.resolve_left hroot
    exact h.reading_agreeOn id hid hn hv hv'

/-- If the values of the root can be read in one model, they can be read in the other one. -/
theorem exists_rootOf (h : m.Correspond m' σ σ' ids fun _ => True) {v : Table Float}
    (hv : m.rootOf σ = .ok v) : ∃ v', m'.rootOf σ' = .ok v' := by
  have hv := rootOf_of_sameFront h.root hv
  unfold rootOf rootTable at hv ⊢
  exact exists_foldlM_overrideRoot h.agree h.given_agreeOn hv

/-- **If a node can be read in one model, it can be read in the other one,** where overrides find
the same results in front. -/
theorem exists_reading (h : m.Correspond m' σ σ' ids fun _ => True)
    (hfront : ∀ id, ids id → ∀ name e, (σ.overrides id).get? name = some e →
      ∀ k ∈ e.dependencies, m.InFront k name → m'.InFront k name) :
    ∀ id ∈ m.definition.nodes, ids id → ∀ {v}, (m.valuation σ).reading id = .ok v →
      ∃ v', (m'.valuation σ').reading id = .ok v' := by
  refine h.alike.left.node_induction fun id hid ih hn v hv => ?_
  have hid' := (h.alike.mem_nodes hn).1 hid
  have hrefs : ∀ r ∈ m'.refs id, ∃ u', (m'.valuation σ').reading r = .ok u' := fun r hr => by
    have hr : r ∈ m.refs id := h.alike.refs_eq hn ▸ hr
    obtain ⟨u, hu, -⟩ := h.alike.left.outcome_ref hv hr
    exact ih r hr (h.alike.refs id hn r hr) hu
  have hout := (Propagation.reading_ok.1 hv).1
  obtain ⟨i, hi, hout⟩ := outcome_valuation_ok.1 hout
  obtain ⟨hnode, hover, hroot, hedges, htags, -⟩ := inputsFrom_ok.1 hi
  -- the inputs of the node in the other model, part by part
  obtain ⟨root', hroot'⟩ := h.exists_rootOf hroot
  obtain ⟨tags', htags'⟩ := h.alike.right.exists_tagsOf (Or.inr hid')
  have hi' : m'.inputsOf σ' id = .ok
      { node := i.node, edges := i.edges, tags := tags', overrides := σ'.overrides id,
        root := root', known := (m'.valuation σ').settled } :=
    inputsFrom_ok.2 ⟨(h.alike.nodes id hn).symm.trans hnode, rfl, hroot',
      (h.alike.edgesOf_eq hn).symm.trans hedges, htags', rfl⟩
  have hagree := h.inputs_agreeOn hn hi hi' fun r hr => by
    obtain ⟨u, hu, hset⟩ := h.alike.left.outcome_ref hv hr
    obtain ⟨u', hu'⟩ := hrefs r (h.alike.refs_eq hn ▸ hr)
    have hset' := (Propagation.get?_settled_ref h.alike.right (h.alike.refs_eq hn ▸ hr)).2
      (Propagation.reading_ok.1 hu').1
    refine ⟨u, u', hset, hset', ?_⟩
    exact h.reading_agreeOn r (h.alike.left.mem_of_mem_refs hr) (h.alike.refs id hn r hr) hu hu'
  obtain ⟨v', hv'⟩ := exists_valueTable h.alike.left h.alike.right h.agree hagree
    (fun name e he k hk hkn => by
      cases he with
      | value hp =>
        -- what the value of a property refers to is declared
        have hp' := (h.agree.properties name trivial).symm.trans hp
        exact h.alike.right.inFront_of_dependsOn
          (TransGen.single (h.alike.right.dependsOn_of_value hp' hk))
      | override he =>
        rw [hover] at he
        exact hfront id hn name e he k (Expr.mem_dependencies.2 hk) hkn) hout
  exact ⟨v', h.alike.right.reading_of_refs (outcome_valuation_ok.2 ⟨_, hi', hv'⟩) hrefs⟩

/-- **Values can be read in both models or in neither,** and are the same. -/
theorem sameReading (h : m.Correspond m' σ σ' ids fun _ => True)
    (hfront : ∀ id, ids id → ∀ name e, (σ.overrides id).get? name = some e →
      ∀ k ∈ e.dependencies, (m.InFront k name ↔ m'.InFront k name))
    (hid : id = rootId ∨ id ∈ m.definition.nodes ∧ ids id) :
    SameReading (m.valuesOf σ id) (m'.valuesOf σ' id) := by
  have hover : ∀ id, ids id → ∀ name e, (σ'.overrides id).get? name = some e →
      (σ.overrides id).get? name = some e := fun id hn name e he =>
    (h.overrides id hn name trivial).trans he
  have hgo : ∀ {v}, m.valuesOf σ id = .ok v → ∃ v', m'.valuesOf σ' id = .ok v' := by
    intro v hv
    unfold valuesOf at hv ⊢
    split
    · rename_i hroot
      exact h.exists_rootOf (by rwa [if_pos hroot] at hv)
    · rename_i hroot
      obtain ⟨hid, hn⟩ := hid.resolve_left hroot
      exact h.exists_reading (fun id hn name e he k hk => (hfront id hn name e he k hk).1) id hid hn
        (by rwa [if_neg hroot] at hv)
  have hback : ∀ {v'}, m'.valuesOf σ' id = .ok v' → ∃ v, m.valuesOf σ id = .ok v := by
    intro v' hv'
    unfold valuesOf at hv' ⊢
    split
    · rename_i hroot
      exact h.symm.exists_rootOf (by rwa [if_pos hroot] at hv')
    · rename_i hroot
      obtain ⟨hid, hn⟩ := hid.resolve_left hroot
      exact h.symm.exists_reading
        (fun id hn name e he k hk => (hfront id hn name e (hover id hn name e he) k hk).2) id
        ((h.alike.mem_nodes hn).1 hid) hn (by rwa [if_neg hroot] at hv')
  cases hv : m.valuesOf σ id with
  | ok v =>
    obtain ⟨v', hv'⟩ := hgo hv
    rw [hv']
    exact .values fun k => h.valuesOf_agreeOn hid hv hv' k trivial
  | error f =>
    cases hv' : m'.valuesOf σ' id with
    | error f' => exact .failures f f'
    | ok v' =>
      obtain ⟨v, hv''⟩ := hback hv'
      simp [hv] at hv''

end Correspond

end Model

end ValuedGraph
