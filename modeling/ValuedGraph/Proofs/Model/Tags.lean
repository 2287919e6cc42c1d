import ValuedGraph.Proofs.Model.Values

/-!
# The tags of a node

Tags can always be read: a node inherits them from refs, which have tags for every property.

* `Model.keys_tagsOf`: a node has tags for every property and for nothing else.
* `Model.Accepted.exists_tagsOf`: **the tags of a node can be read.**
-/

namespace ValuedGraph

namespace Model

variable {m : Model} {id : String} {tags : Table TagMembership}

theorem keys_tagging (h : m.tagging.outcome id = .ok tags) :
    tags.keys = m.definition.properties.keys := by
  obtain ⟨edges, -, h⟩ := outcome_tagging_ok.1 h
  obtain ⟨n, -, h⟩ := Traced.result_bind_ok.1 h
  rw [Traced.result_traverse] at h
  exact Table.keys_of_traverse h

/-- **A node has tags for every property,** in their order, and for nothing else. -/
theorem keys_tagsOf (h : m.tagsOf id = .ok tags) : tags.keys = m.definition.properties.keys := by
  unfold tagsOf at h
  split at h
  · obtain rfl := Except.ok.inj h
    rw [rootTags, Table.keys_map]
  · exact keys_tagging (Propagation.reading_ok.1 h).1

theorem mem_tagging (h : m.tagging.outcome id = .ok tags) (k : String) :
    k ∈ tags ↔ k ∈ m.definition.properties := by
  rw [Table.mem_iff, keys_tagging h, Table.mem_iff]

theorem mem_tagsOf (h : m.tagsOf id = .ok tags) (k : String) :
    k ∈ tags ↔ k ∈ m.definition.properties := by
  rw [Table.mem_iff, keys_tagsOf h, Table.mem_iff]

namespace Accepted

/-- The edges of a node can be read. -/
theorem exists_edgesOf (hm : m.Accepted) (hid : id = rootId ∨ id ∈ m.definition.nodes) :
    ∃ edges, m.edgesOf id = .ok edges := by
  unfold edgesOf
  split
  · exact ⟨[], rfl⟩
  · rename_i hroot
    exact hm.expandedEdges_ok (hid.resolve_left hroot)

/-- If the refs of a node have tags, the node has tags. -/
theorem exists_tagging (hm : m.Accepted) :
    ∀ id ∈ m.definition.nodes, ∃ tags, m.tagging.outcome id = .ok tags := by
  refine hm.node_induction fun id hid ih => ?_
  obtain ⟨edges, hedges⟩ := hm.exists_edgesOf (Or.inr hid)
  obtain ⟨n, hn⟩ := Derived.exists_entry hid
  -- along an edge of the property's type, the ref has tags for the property
  have hfor : ∀ own name p, m.definition.properties.get? name = some p →
      ∃ t, (tagsFor own edges m.tagging.settled name p).result = .ok t := by
    intro own name p hp
    have hname : name ∈ m.definition.properties := Table.mem_of_get? hp
    unfold tagsFor
    split
    · exact ⟨_, rfl⟩
    obtain ⟨lists, hlists⟩ := Traced.exists_mapM_ok
      (l := edges.filter fun e => e.type == name && e.ref != rootId)
      (f := fun e => do
        return (← Derived.entry (← Derived.entry m.tagging.settled e.ref) name).all) fun e he => by
      obtain ⟨hmem, hcond⟩ := List.mem_filter.1 he
      have href := mem_refs_of_edgesOf hedges hmem (by simp_all)
      obtain ⟨tags, htags⟩ := ih e.ref href
      have hentry : (Derived.entry m.tagging.settled e.ref).result = .ok tags :=
        Derived.entry_ok.2 ((Propagation.get?_settled_ref hm href).2 htags)
      obtain ⟨t, ht⟩ := Derived.exists_entry ((mem_tagging htags name).2 hname)
      exact ⟨t.all, Traced.result_bind_ok.2 ⟨tags, hentry, Traced.result_bind_ok.2 ⟨t, ht, rfl⟩⟩⟩
    exact ⟨_, Traced.result_bind_ok.2 ⟨lists, hlists, rfl⟩⟩
  obtain ⟨tags, htags⟩ := Table.exists_traverse (hfor n.tags)
  rw [← Traced.result_traverse] at htags
  refine ⟨tags, ?_⟩
  simp only [Propagation.outcome, tagging, hedges, Except.bind]
  exact Traced.result_bind_ok.2 ⟨n, hn, htags⟩

/-- **The tags of a node can be read.** -/
theorem exists_tagsOf (hm : m.Accepted) (hid : id = rootId ∨ id ∈ m.definition.nodes) :
    ∃ tags, m.tagsOf id = .ok tags := by
  unfold tagsOf
  split
  · exact ⟨_, rfl⟩
  rename_i hroot
  obtain ⟨tags, htags⟩ := hm.exists_tagging id (hid.resolve_left hroot)
  refine ⟨tags, Propagation.reading_ok.2 ⟨htags, fun k hk => ?_⟩⟩
  obtain ⟨-, hk'⟩ := hm.mem_upstream.1 hk
  obtain ⟨hmem, -⟩ := List.mem_filter.1 hk
  exact hm.exists_tagging k (((hm.nodeOrder_ok.2.1 k).1 hmem).resolve_left hk')

end Accepted

end Model

end ValuedGraph
