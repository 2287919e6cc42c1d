import ValuedGraph.Proofs.Model.Runs
import ValuedGraph.Proofs.Model.Tags

/-!
# Inherited tags

A node looks at the tags of its refs only, one property at a time. What it comes to are the tags of
all nodes that it leads to along edges of the property's type, because its refs have looked at
theirs before.

* `Model.LeadsTo`: the edges of one type, as they are read.
* `Model.Carries`: **the tags of a node and of all nodes that it leads to.**
* `mem_tagsFor`: what one node takes over from its refs.
* `Model.Accepted.mem_tagging_iff`: **inheritance is reachability.**
* `tags_are_reachable`: the same of reads at the end of a run, the tags of all properties together
  included.
-/

namespace ValuedGraph

open Relation

variable {m : Model} {id name tag a b : String} {μ : Memo} {n : Node} {p : Property}

section Unions

theorem mem_foldl_unionNames {lists : List (List String)} {own : List String} :
    tag ∈ lists.foldl unionNames own ↔ tag ∈ own ∨ ∃ l ∈ lists, tag ∈ l := by
  induction lists generalizing own with
  | nil => simp
  | cons l lists ih => rw [List.foldl_cons, ih, mem_unionNames, or_assoc, List.exists_mem_cons_iff]

variable {ts : List TagMembership} {t : TagMembership}

/-- **The tags of several memberships together.** -/
theorem mem_foldl_union_own :
    tag ∈ (ts.foldl TagMembership.union t).own ↔ tag ∈ t.own ∨ ∃ u ∈ ts, tag ∈ u.own := by
  have hown : (ts.foldl TagMembership.union t).own =
      (ts.map TagMembership.own).foldl unionNames t.own := by
    rw [List.foldl_map]
    exact (List.foldl_hom TagMembership.own fun _ _ => rfl).symm
  rw [hown, mem_foldl_unionNames]
  simp

theorem mem_foldl_union_all :
    tag ∈ (ts.foldl TagMembership.union t).all ↔ tag ∈ t.all ∨ ∃ u ∈ ts, tag ∈ u.all := by
  have hall : (ts.foldl TagMembership.union t).all =
      (ts.map TagMembership.all).foldl unionNames t.all := by
    rw [List.foldl_map]
    exact (List.foldl_hom TagMembership.all fun _ _ => rfl).symm
  rw [hall, mem_foldl_unionNames]
  simp

theorem TagMembership.mem_extended : tag ∈ t.extended ↔ tag ∈ t.all ∧ tag ∉ t.own := by
  simp [TagMembership.extended]

end Unions

/-- **What a node takes over from its refs** for one property. -/
theorem mem_tagsFor {own : List String} {edges : List ExpandedEdge}
    {known : Table (Table TagMembership)} {t : TagMembership}
    (h : (Model.tagsFor own edges known name p).result = .ok t) :
    t.own = own ∧ (p.extendTags = false → t.all = own) ∧ (p.extendTags = true → ∀ tag, tag ∈ t.all ↔
      tag ∈ own ∨ ∃ e ∈ edges, e.type = name ∧ e.ref ≠ rootId ∧ ∃ u v,
        known.get? e.ref = some u ∧ u.get? name = some v ∧ tag ∈ v.all) := by
  unfold Model.tagsFor at h
  cases hextend : p.extendTags with
  | false =>
    simp only [hextend, Bool.not_false, if_true] at h
    obtain rfl := Except.ok.inj h
    exact ⟨rfl, fun _ => rfl, nofun⟩
  | true =>
    simp only [hextend, Bool.not_true, Bool.false_eq_true, if_false] at h
    obtain ⟨lists, hlists, hpure⟩ := Traced.result_bind_ok.1 h
    obtain rfl := Except.ok.inj hpure
    refine ⟨rfl, nofun, fun _ tag => ?_⟩
    rw [mem_foldl_unionNames]
    refine or_congr_right ⟨?_, ?_⟩
    · rintro ⟨l, hl, htag⟩
      obtain ⟨e, he, hentry⟩ := Traced.mem_of_mapM_ok hlists hl
      obtain ⟨u, hu, hentry⟩ := Traced.result_bind_ok.1 hentry
      obtain ⟨v, hv, hpure⟩ := Traced.result_bind_ok.1 hentry
      obtain rfl := Except.ok.inj hpure
      obtain ⟨hmem, hcond⟩ := List.mem_filter.1 he
      rw [Bool.and_eq_true, beq_iff_eq, bne_iff_ne] at hcond
      exact ⟨e, hmem, hcond.1, hcond.2, u, v, Derived.entry_ok.1 hu, Derived.entry_ok.1 hv, htag⟩
    · rintro ⟨e, hmem, htype, hroot, u, v, hu, hv, htag⟩
      have he : e ∈ edges.filter fun e => e.type == name && e.ref != rootId :=
        List.mem_filter.2 ⟨hmem, by simp [htype, hroot]⟩
      refine ⟨v.all, Traced.mem_mapM_ok hlists he ?_, htag⟩
      exact Traced.result_bind_ok.2 ⟨u, Derived.entry_ok.2 hu,
        Traced.result_bind_ok.2 ⟨v, Derived.entry_ok.2 hv, rfl⟩⟩

/-- **An edge of a type leads from one node to another,** written or implied, if it is among the
edges that are read. -/
def Model.LeadsTo (m : Model) (μ : Memo) (type a b : String) : Prop :=
  ∃ edges : List ExpandedEdge, (m.read (.edges a) μ).result = .ok edges ∧ ∃ e ∈ edges, e.type = type ∧ e.ref = b

/-- **A tag that a node carries along a type:** it is declared on the node, or on another one, the
root apart, to which a path of edges of this type leads. -/
def Model.Carries (m : Model) (μ : Memo) (type id tag : String) : Prop :=
  ∃ k n, k ≠ rootId ∧ ReflTransGen (m.LeadsTo μ type) id k ∧ m.node? k = some n ∧ tag ∈ n.tags

namespace Model

/-- A node carries its own tags. The root has none. -/
theorem carries_own (hn : m.node? id = some n) (htag : tag ∈ n.tags) : m.Carries μ name id tag := by
  have hid : id ≠ rootId := by
    rintro rfl
    obtain rfl := Option.some.inj hn
    cases htag
  exact ⟨id, n, hid, .refl, hn, htag⟩

section Run

variable (hm : m.Accepted) (ops : List Operation)
include hm

/-- The edges of a known node. -/
theorem Accepted.leadsTo_iff (hn : m.node? a = some n) :
    m.LeadsTo (m.run ops {}) name a b ↔
      ∃ edges, m.edgesOf a = .ok edges ∧ ∃ e ∈ edges, e.type = name ∧ e.ref = b := by
  unfold LeadsTo
  rw [read_edges_run hm ops hn]
  exact Iff.rfl

/-- No edge leads away from the root. -/
theorem Accepted.eq_root_of_leadsTo (h : ReflTransGen (m.LeadsTo (m.run ops {}) name) rootId a) :
    a = rootId := by
  rcases ReflTransGen.cases_head_iff.1 h with hself | ⟨b, hedge, -⟩
  · exact hself.symm
  · have hroot : m.node? rootId = some rootNode := if_pos rfl
    obtain ⟨edges, hedges, e, he, -⟩ := (hm.leadsTo_iff ops hroot).1 hedge
    obtain rfl := Except.ok.inj hedges
    cases he

/-- **A node carries** its own tags and those that its refs carry. -/
theorem Accepted.carries_iff (hn : m.definition.nodes.get? id = some n) :
    m.Carries (m.run ops {}) name id tag ↔ tag ∈ n.tags ∨ ∃ r ∈ m.refs id,
      m.LeadsTo (m.run ops {}) name id r ∧ m.Carries (m.run ops {}) name r tag := by
  have hnode : m.node? id = some n := hm.node?_eq hn
  constructor
  · rintro ⟨k, n', hk, hpath, hn', htag⟩
    rcases ReflTransGen.cases_head_iff.1 hpath with rfl | ⟨r, hedge, hpath⟩
    · obtain rfl := Option.some.inj (hnode.symm.trans hn')
      exact Or.inl htag
    · -- a path through the root would end there
      have hroot : r ≠ rootId := by
        rintro rfl
        exact hk (hm.eq_root_of_leadsTo ops hpath)
      obtain ⟨edges, hedges, e, he, -, rfl⟩ := (hm.leadsTo_iff ops hnode).1 hedge
      exact Or.inr ⟨e.ref, mem_refs_of_edgesOf hedges he hroot, hedge, k, n', hk, hpath, hn', htag⟩
  · rintro (htag | ⟨r, -, hedge, k, n', hk, hpath, hn', htag⟩)
    · exact carries_own hnode htag
    · exact ⟨k, n', hk, .head hedge hpath, hn', htag⟩

/-- **Inheritance is reachability.** What a node takes over from its refs are the tags that it
carries. -/
theorem Accepted.mem_tagging_iff (hp : m.definition.properties.get? name = some p)
    (hextend : p.extendTags = true) : ∀ id ∈ m.definition.nodes, ∀ {table t},
      m.tagging.outcome id = .ok table → table.get? name = some t → ∀ tag,
        tag ∈ t.all ↔ m.Carries (m.run ops {}) name id tag := by
  refine hm.node_induction fun id hid ih table t htable ht tag => ?_
  obtain ⟨edges, hedges, htable⟩ := outcome_tagging_ok.1 htable
  obtain ⟨n, hn, htable⟩ := Traced.result_bind_ok.1 htable
  have hn := Derived.entry_ok.1 hn
  rw [Traced.result_traverse] at htable
  obtain ⟨p', hp', htags⟩ := (Table.get?_of_traverse htable).1 ht
  obtain rfl := Option.some.inj (hp.symm.trans hp')
  obtain ⟨-, -, hall⟩ := mem_tagsFor htags
  have hnode : m.node? id = some n := hm.node?_eq hn
  rw [hall hextend, hm.carries_iff ops hn]
  refine or_congr_right ⟨?_, ?_⟩
  · rintro ⟨e, he, htype, href, u, v, hu, hv, htag⟩
    have hr := mem_refs_of_edgesOf hedges he href
    refine ⟨e.ref, hr, (hm.leadsTo_iff ops hnode).2 ⟨edges, hedges, e, he, htype, rfl⟩, ?_⟩
    exact (ih e.ref hr ((Propagation.get?_settled_ref hm hr).1 hu) hv tag).1 htag
  · rintro ⟨r, hr, hedge, hcarries⟩
    obtain ⟨edges', hedges', e, he, htype, rfl⟩ := (hm.leadsTo_iff ops hnode).1 hedge
    obtain rfl := Except.ok.inj (hedges.symm.trans hedges')
    -- the ref has tags for the property, and by induction these are what it carries
    obtain ⟨u, hu⟩ := hm.exists_tagging e.ref (hm.mem_of_mem_refs hr)
    obtain ⟨v, hv⟩ := Table.exists_get? ((mem_tagging hu name).2 (Table.mem_of_get? hp))
    exact ⟨e, he, htype, (mem_refs.1 hr).1, u, v, (Propagation.get?_settled_ref hm hr).2 hu, hv,
      (ih e.ref hr hu hv tag).2 hcarries⟩

/-- **The tags of a node for one property.** The root has none. -/
theorem Accepted.mem_tagsOf_iff (hn : m.node? id = some n)
    (hp : m.definition.properties.get? name = some p) {table : Table TagMembership}
    (htable : m.tagsOf id = .ok table) {t : TagMembership} (ht : table.get? name = some t) :
    t.own = n.tags ∧ (p.extendTags = false → t.all = t.own) ∧
      (p.extendTags = true → ∀ tag, tag ∈ t.all ↔ m.Carries (m.run ops {}) name id tag) := by
  unfold tagsOf at htable
  by_cases hroot : id = rootId
  · subst hroot
    obtain rfl := Option.some.inj hn
    obtain rfl := Except.ok.inj htable
    rw [rootTags, Table.get?_map, hp] at ht
    obtain rfl := Option.some.inj ht
    refine ⟨rfl, fun _ => rfl, fun _ tag => ⟨fun htag => absurd htag List.not_mem_nil, ?_⟩⟩
    rintro ⟨k, -, hk, hpath, -⟩
    exact absurd (hm.eq_root_of_leadsTo ops hpath) hk
  · rw [node?, if_neg hroot] at hn
    rw [if_neg hroot] at htable
    have hout := (Propagation.reading_ok.1 htable).1
    obtain ⟨edges, -, htraverse⟩ := outcome_tagging_ok.1 hout
    obtain ⟨n', hn', htraverse⟩ := Traced.result_bind_ok.1 htraverse
    obtain rfl := Option.some.inj (hn.symm.trans (Derived.entry_ok.1 hn'))
    rw [Traced.result_traverse] at htraverse
    obtain ⟨p', hp', htags⟩ := (Table.get?_of_traverse htraverse).1 ht
    obtain rfl := Option.some.inj (hp.symm.trans hp')
    obtain ⟨hown, hplain, -⟩ := mem_tagsFor htags
    refine ⟨hown, fun hextend => (hplain hextend).trans hown.symm, fun hextend => ?_⟩
    exact hm.mem_tagging_iff ops hp hextend id (Table.mem_of_get? hn) hout ht

/-- **The tags of all properties together.** Those that are declared on the node count anyway. -/
theorem Accepted.exists_merged (hn : m.node? id = some n) {table : Table TagMembership}
    (htable : m.tagsOf id = .ok table) : ∃ merged : TagMembership,
      (m.read (.tags id) (m.run ops {})).result = .ok merged ∧
      (∀ tag, tag ∈ merged.own ↔ tag ∈ n.tags ∨ ∃ j u, table.get? j = some u ∧ tag ∈ u.own) ∧
      ∀ tag, tag ∈ merged.all ↔ tag ∈ n.tags ∨ ∃ j u, table.get? j = some u ∧ tag ∈ u.all := by
  have hvalues : ∀ q : TagMembership → Prop, (∃ u ∈ table.values, q u) ↔
      ∃ j u, table.get? j = some u ∧ q u := by
    intro q
    simp only [Table.mem_values]
    constructor
    · rintro ⟨u, ⟨j, hj⟩, hu⟩
      exact ⟨j, u, hj, hu⟩
    · rintro ⟨j, u, hj, hu⟩
      exact ⟨u, ⟨j, hj⟩, hu⟩
  refine ⟨_, (read_tags_run hm ops hn).trans (by rw [htable]; rfl), fun tag => ?_, fun tag => ?_⟩
  · rw [mem_foldl_union_own, hvalues]
  · rw [mem_foldl_union_all, hvalues]

end Run

end Model

/-- **Tag inheritance is reachability.** At the end of every run, the tags of a node for a property
are its own, and, if the property extends tags, those of all nodes that it leads to along edges of
the property's type. Together they are the tags of the node. -/
theorem tags_are_reachable {d : Definition} (h : d.accept = .ok m) (ops : List Operation)
    (hn : m.node? id = some n) (hp : d.properties.get? name = some p) :
    let μ := m.run ops {}
    ∃ (table : Table TagMembership) (t merged : TagMembership),
      (m.tags id μ).result = .ok table ∧ table.keys = d.properties.keys ∧
      table.get? name = some t ∧ t.own = n.tags ∧
      (p.extendTags = true → ∀ tag, tag ∈ t.all ↔ m.Carries μ name id tag) ∧
      (p.extendTags = false → t.all = t.own) ∧
      (∀ tag, tag ∈ t.extended ↔ tag ∈ t.all ∧ tag ∉ t.own) ∧
      (m.read (.tags id) μ).result = .ok merged ∧
      (∀ tag, tag ∈ merged.own ↔ ∃ j u, table.get? j = some u ∧ tag ∈ u.own) ∧
      ∀ tag, tag ∈ merged.all ↔ ∃ j u, table.get? j = some u ∧ tag ∈ u.all := by
  obtain ⟨hm, rfl⟩ := accepted_of_accept h
  intro μ
  obtain ⟨table, htable⟩ := hm.exists_tagsOf (Model.known_of_node? hn)
  obtain ⟨t, ht⟩ := Table.exists_get? ((Model.mem_tagsOf htable name).2 (Table.mem_of_get? hp))
  obtain ⟨hown, hplain, hextend⟩ := hm.mem_tagsOf_iff ops hn hp htable ht
  obtain ⟨merged, hmerged, hmergedOwn, hmergedAll⟩ := hm.exists_merged ops hn htable
  have hread : (m.tags id μ).result = .ok table :=
    (yields_tags hm (memoOK_run hm ops) id).result.trans htable
  -- the tags that the node declares are among those of the property
  have hdeclared : ∀ tag ∈ n.tags, tag ∈ t.all := by
    intro tag htag
    cases hp' : p.extendTags with
    | false => rwa [hplain hp', hown]
    | true => exact (hextend hp' tag).2 (Model.carries_own hn htag)
  refine ⟨table, t, merged, hread, Model.keys_tagsOf htable, ht, hown, hextend, hplain,
    fun tag => TagMembership.mem_extended, hmerged, fun tag => ?_, fun tag => ?_⟩
  · rw [hmergedOwn]
    refine or_iff_right_of_imp fun htag => ⟨name, t, ht, ?_⟩
    rwa [hown]
  · rw [hmergedAll]
    exact or_iff_right_of_imp fun htag => ⟨name, t, ht, hdeclared tag htag⟩

/-- A valley: silt is inherited along the edges that flows imply, heat is not inherited. -/
def valley : Definition where
  properties := .ofList [
    ("flow",
      { name := "flow", value := .parentValue "flow", implies := ["silt"], extendTags := true }),
    ("silt", { name := "silt", value := .parentValue "silt", extendTags := true }),
    ("heat", { name := "heat", value := .parentValue "heat" })]
  nodes := .ofList [
    ("mouth",
      { edges := [
          { type := "silt", ref := some "lake" }, { type := "heat", ref := some "well" },
          { type := "flow" }]
        tags := ["wide"] }),
    ("lake", { edges := [{ type := "flow", ref := some "spring" }], tags := ["calm", "wide"] }),
    ("spring", { tags := ["fresh"] }),
    ("well", { tags := ["warm"] })]
  tags := .constant ["wide", "calm", "fresh", "warm"]
    { displayName := "", description := "", color := none, constants := ∅ }

/-- The mouth inherits from the spring, which only an implied edge of the lake leads to. -/
theorem tags_are_reachable_valley : ∃ m p, valley.accept = .ok m ∧
    valley.properties.get? "silt" = some p ∧ p.extendTags = true ∧
    let μ := m.run [.read .summary, .enter defaultScenario] {}
    ∃ (table : Table TagMembership) (t merged : TagMembership),
      (m.tags "mouth" μ).result = .ok table ∧ table.get? "silt" = some t ∧ t.own = ["wide"] ∧
      (∀ tag, tag ∈ t.all ↔ m.Carries μ "silt" "mouth" tag) ∧
      (m.read (.tags "mouth") μ).result = .ok merged ∧
      (∀ tag, tag ∈ merged.all ↔ ∃ j u, table.get? j = some u ∧ tag ∈ u.all) ∧
      "fresh" ∈ merged.all := by
  have h : valley.accept = .ok _ := rfl
  have hp : valley.properties.get? "silt" = some _ := rfl
  obtain ⟨hm, -⟩ := accepted_of_accept h
  obtain ⟨table, t, merged, htable, -, ht, hown, hextend, -, -, hmerged, -, hall⟩ :=
    @tags_are_reachable _ "mouth" "silt" _ _ _ h [.read .summary, .enter defaultScenario] rfl hp
  have hfresh : "fresh" ∈ t.all := by
    refine (hextend rfl "fresh").2
      ⟨"spring", _, by decide, .head (b := "lake") ?_ (.single ?_), rfl, List.mem_cons_self⟩
    · exact (hm.leadsTo_iff _ rfl).2 ⟨_, rfl, _, List.mem_cons_self, rfl, rfl⟩
    · exact (hm.leadsTo_iff _ rfl).2 ⟨_, rfl, _, List.mem_cons_of_mem _ List.mem_cons_self, rfl, rfl⟩
  refine ⟨_, _, h, hp, rfl, table, t, merged, htable, ht, hown, hextend rfl, hmerged, hall, ?_⟩
  exact (hall "fresh").2 ⟨"silt", t, ht, hfresh⟩

end ValuedGraph
