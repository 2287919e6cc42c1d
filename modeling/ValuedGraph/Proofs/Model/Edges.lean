import ValuedGraph.Model.Computation
import ValuedGraph.Proofs.Model.Accepted
import ValuedGraph.Proofs.Trace

/-!
# The edges of a node

An edge is written by the author or implied by one that is. Both lead to a node that the
author's edges lead to, and both have a type that is a property.

* `get?_groupBy`: a group has the items with its key, in their order.
* `Definition.impliedBy`: the implied edges of a node, without a failure in between.
* `Model.mem_expandedEdges`: **what an edge of a node is.**
* `Model.Accepted.expandedEdges_eq`: **the edges of a node of an accepted model** are those of the
  author and the implied ones.
-/

namespace ValuedGraph

section Grouping

variable {α : Type} {key : α → String} {items : List α}

/-- Grouping goes on with what is in the groups so far. -/
theorem get?_foldl_groupBy (k : String) : ∀ t : Table (List α),
    (items.foldl (fun t a => t.insert (key a) (t.getD (key a) [] ++ [a])) t).get? k =
      match items.filter fun a => key a = k with
      | [] => t.get? k
      | group => some (t.getD k [] ++ group) := by
  induction items with
  | nil => intro t; rfl
  | cons a items ih =>
    intro t
    rw [List.foldl_cons, ih]
    by_cases ha : key a = k
    · subst ha
      simp only [decide_true, List.filter_cons_of_pos, Table.getD, Table.get?_insert_self,
        Option.getD_some]
      split
      · rename_i hnil
        rw [hnil]
      · simp
    · have hk : ∀ xs, (t.insert (key a) xs).get? k = t.get? k := fun xs =>
        Table.get?_insert_of_ne t xs fun h => ha h.symm
      simp only [ha, decide_false, Bool.false_eq_true, not_false_eq_true, List.filter_cons_of_neg,
        Table.getD, hk]

/-- **A group has the items with its key,** and is there if there are any. -/
theorem get?_groupBy (k : String) : (groupBy key items).get? k =
    match items.filter fun a => key a = k with
    | [] => none
    | group => some group := by
  rw [groupBy, get?_foldl_groupBy]
  rfl

/-- **There is a group for every key,** in the order in which the keys come first. -/
theorem keys_groupBy : (groupBy key items).keys = (items.map key).eraseDups :=
  Table.keys_foldl_insert key (fun t a => t.getD (key a) [] ++ [a]) items ∅

theorem mem_groupBy {k : String} {group : List α} (h : (k, group) ∈ (groupBy key items).entries) :
    group = items.filter (fun a => key a = k) ∧ group ≠ [] := by
  have hget : (groupBy key items).get? k = _ := get?_groupBy k
  rw [Table.get?_eq_some_iff.2 h] at hget
  split at hget
  · cases hget
  · rename_i hne
    obtain rfl := Option.some.inj hget
    exact ⟨rfl, fun hnil => hne hnil⟩

/-- Items that are taken key by key are those with one of the keys. -/
theorem perm_flatMap_filter {keys : List String} (h : keys.Nodup) :
    (keys.flatMap fun k => items.filter fun a => key a = k).Perm
      (items.filter fun a => key a ∈ keys) := by
  induction keys with
  | nil => simp
  | cons k keys ih =>
    rw [List.nodup_cons] at h
    have hsplit := List.filter_append_perm (fun a => decide (key a = k))
      (items.filter fun a => key a ∈ k :: keys)
    have hhere : (items.filter fun a => key a ∈ k :: keys).filter (fun a => key a = k) =
        items.filter fun a => key a = k := by
      rw [List.filter_filter]
      exact List.filter_congr fun a _ => by simp +contextual
    have hthere : (items.filter fun a => key a ∈ k :: keys).filter (fun a => !decide (key a = k)) =
        items.filter fun a => key a ∈ keys := by
      rw [List.filter_filter]
      refine List.filter_congr fun a _ => ?_
      by_cases ha : key a = k
      · simp [ha, h.1]
      · simp [ha]
    rw [hhere, hthere] at hsplit
    rw [List.flatMap_cons]
    exact ((ih h.2).append_left _).trans hsplit

/-- **Every item is in one group,** once. -/
theorem perm_groupBy : ((groupBy key items).entries.flatMap Prod.snd).Perm items := by
  have hgroups : (groupBy key items).entries.flatMap Prod.snd =
      (groupBy key items).keys.flatMap fun k => items.filter fun a => key a = k := by
    rw [Table.keys, List.flatMap_map]
    exact List.flatMap_congr fun g hg => (mem_groupBy hg).1
  have hall : (items.filter fun a => key a ∈ (groupBy key items).keys) = items := by
    refine List.filter_eq_self.2 fun a ha => decide_eq_true ?_
    rw [keys_groupBy, List.mem_eraseDups]
    exact List.mem_map_of_mem ha
  have hperm : ((groupBy key items).keys.flatMap fun k => items.filter fun a => key a = k).Perm
      (items.filter fun a => key a ∈ (groupBy key items).keys) :=
    perm_flatMap_filter (Table.nodup_keys _)
  rwa [hall, ← hgroups] at hperm

/-- The members of a group are items with its key. -/
theorem mem_of_mem_groupBy {k : String} {group : List α}
    (h : (k, group) ∈ (groupBy key items).entries) {a : α} (ha : a ∈ group) :
    a ∈ items ∧ key a = k := by
  rw [(mem_groupBy h).1, List.mem_filter] at ha
  simpa using ha

end Grouping

theorem Derived.entry_ok {α : Type} {t : Table α} {k : String} {a : α} :
    (Derived.entry t k).result = .ok a ↔ t.get? k = some a := by
  unfold Derived.entry
  cases t.get? k <;> simp [Traced.fail]

theorem Derived.entry_error {α : Type} {t : Table α} {k : String} {f : ReadFailure} :
    (Derived.entry t k).result = .error f ↔ k ∉ t ∧ f = .absent k := by
  rw [← Table.get?_eq_none_iff]
  unfold Derived.entry
  cases t.get? k <;> simp [Traced.fail, eq_comm]

/-- An entry that is there is found. -/
theorem Derived.exists_entry {α : Type} {t : Table α} {k : String} (h : k ∈ t) :
    ∃ a, (Derived.entry t k).result = .ok a := by
  obtain ⟨a, ha⟩ := Table.exists_get? h
  exact ⟨a, Derived.entry_ok.2 ha⟩

/-- The types that come with edges of a type, as its property lists them. -/
def Definition.impliesOf (d : Definition) (type : String) : List String :=
  ((d.properties.get? type).map Property.implies).getD []

theorem Definition.mem_impliesOf {d : Definition} {type t : String} :
    t ∈ d.impliesOf type ↔ ∃ p, d.properties.get? type = some p ∧ t ∈ p.implies := by
  unfold Definition.impliesOf
  cases d.properties.get? type <;> simp

/-- The types of the edges that the author wrote from a node to a ref. -/
def Node.typesTo (n : Node) (ref : String) : List String :=
  (n.edges.filter fun e => e.target = ref).map Edge.type

theorem Node.mem_typesTo {n : Node} {ref t : String} :
    t ∈ n.typesTo ref ↔ ∃ e ∈ n.edges, e.target = ref ∧ e.type = t := by
  simp [Node.typesTo, and_assoc]

/-- **The types that are mentioned** along these edges, again and again. -/
def Definition.mentions (d : Definition) (n : Node) (ref : String) : List String :=
  (n.typesTo ref).flatMap d.impliesOf

/-- The implied edge of a type from a node to a ref. -/
def Definition.impliedEdge (d : Definition) (id ref type : String) : ExpandedEdge :=
  let constants := ((d.properties.get? type).map Property.constants).getD ∅
  { source := id, ref, type, constants, implied := true }

/-- The implied edges from a node to a ref: of what is mentioned, what the author did not write. -/
def Definition.impliedTo (d : Definition) (id : String) (n : Node) (ref : String) :
    List ExpandedEdge :=
  ((d.mentions n ref).eraseDups.filter fun t => t ∉ n.typesTo ref).map (d.impliedEdge id ref)

/-- **The implied edges of a node,** ref by ref. -/
def Definition.impliedBy (d : Definition) (id : String) (n : Node) : List ExpandedEdge :=
  (n.edges.map Edge.target).eraseDups.flatMap (d.impliedTo id n)

namespace Model

variable {m : Model} {id : String} {edges : List ExpandedEdge}

/-- The edges that are written have the ref and the type of the author's. -/
theorem mem_authoredEdges {n : Node} {x : ExpandedEdge} (hx : x ∈ authoredEdges id n) :
    ∃ e ∈ n.edges, x.ref = e.target ∧ x.type = e.type := by
  obtain ⟨e, he, rfl⟩ := List.mem_map.1 hx
  exact ⟨e, he, rfl, rfl⟩

theorem mem_impliedEdges {ref : String} {authored implied : List ExpandedEdge}
    (h : (m.impliedEdges id ref authored).result = .ok implied) {x : ExpandedEdge}
    (hx : x ∈ implied) : x.ref = ref ∧ x.type ∈ m.definition.properties := by
  obtain ⟨types, -, hmap⟩ := Traced.result_bind_ok.1 h
  obtain ⟨type, -, htype⟩ := Traced.mem_of_mapM_ok hmap hx
  obtain ⟨p, hp, hpure⟩ := Traced.result_bind_ok.1 htype
  obtain rfl := Except.ok.inj hpure
  have hget := Derived.entry_ok.1 hp
  exact ⟨rfl, Table.mem_of_get? hget⟩

/-- **An edge of a node** leads where an edge of the author leads, and either has its type or
is implied. -/
theorem mem_expandedEdges (h : (m.expandedEdges id).result = .ok edges) {x : ExpandedEdge}
    (hx : x ∈ edges) : ∃ n, m.definition.nodes.get? id = some n ∧
      ∃ e ∈ n.edges, x.ref = e.target ∧ (x.type = e.type ∨ x.type ∈ m.definition.properties) := by
  obtain ⟨n, hn, h⟩ := Traced.result_bind_ok.1 h
  obtain ⟨implied, himplied, hpure⟩ := Traced.result_bind_ok.1 h
  obtain rfl := Except.ok.inj hpure
  refine ⟨n, Derived.entry_ok.1 hn, ?_⟩
  rcases List.mem_append.1 hx with hx | hx
  · obtain ⟨e, he, href, htype⟩ := mem_authoredEdges hx
    exact ⟨e, he, href, Or.inl htype⟩
  · obtain ⟨group, hgroup, hx⟩ := List.mem_flatten.1 hx
    obtain ⟨⟨ref, authored⟩, hmem, hres⟩ := Traced.mem_of_mapM_ok himplied hgroup
    obtain ⟨href, htype⟩ := mem_impliedEdges hres hx
    -- a group has an edge of the author, which leads to the same ref
    obtain ⟨y, hy⟩ := List.exists_mem_of_ne_nil _ (mem_groupBy hmem).2
    obtain ⟨hauth, hkey⟩ := mem_of_mem_groupBy hmem hy
    obtain ⟨e, he, hye, -⟩ := mem_authoredEdges hauth
    exact ⟨e, he, by rw [href, ← hkey, hye], Or.inr htype⟩

/-- The refs of the edges of a node. -/
theorem ref_of_mem_expandedEdges (h : (m.expandedEdges id).result = .ok edges) {x : ExpandedEdge}
    (hx : x ∈ edges) : x.ref = rootId ∨ x.ref ∈ m.refs id := by
  obtain ⟨n, hn, e, he, href, -⟩ := mem_expandedEdges h hx
  by_cases hroot : x.ref = rootId
  · exact Or.inl hroot
  · exact Or.inr (mem_refs.2 ⟨hroot, n, hn, e, he, href.symm⟩)

namespace Accepted

/-- The type of an edge is a property. -/
theorem type_of_mem_expandedEdges (hm : m.Accepted) (h : (m.expandedEdges id).result = .ok edges)
    {x : ExpandedEdge} (hx : x ∈ edges) : x.type ∈ m.definition.properties := by
  obtain ⟨n, hn, e, he, -, htype | htype⟩ := mem_expandedEdges h hx
  · rw [htype]
    exact ((hm.nodes id n hn).edges e he).type
  · exact htype

/-- What is implied is a property. -/
theorem implied_property (hm : m.Accepted) {n : Node} {ref t : String}
    (ht : t ∈ m.definition.mentions n ref) : t ∈ m.definition.properties := by
  obtain ⟨s, -, hs⟩ := List.mem_flatMap.1 ht
  obtain ⟨p, hp, hmem⟩ := Definition.mem_impliesOf.1 hs
  exact (hm.properties s p hp).implies t hmem

/-- **The types that are implied** besides the given ones, if these are properties. -/
theorem impliedTypes_eq {types : List String} (h : ∀ t ∈ types, t ∈ m.definition.properties) :
    (m.impliedTypes types).result = .ok
      ((types.flatMap m.definition.impliesOf).eraseDups.filter fun t => !types.contains t) := by
  have hlists : (types.mapM fun t => (do return (← m.property t).implies : Derived _)).result =
      .ok (types.map m.definition.impliesOf) := by
    refine Traced.mapM_ok_map fun t ht => ?_
    obtain ⟨p, hp⟩ := Table.exists_get? (h t ht)
    have himplies : m.definition.impliesOf t = p.implies := by simp [Definition.impliesOf, hp]
    exact Traced.result_bind_ok.2 ⟨p, Derived.entry_ok.2 hp, by rw [himplies]; rfl⟩
  refine Traced.result_bind_ok.2 ⟨_, hlists, ?_⟩
  rw [List.flatMap_def]
  rfl

/-- **The implied edges to a ref** can be computed from the edges of the author to it. -/
theorem impliedEdges_eq (hm : m.Accepted) {n : Node} (hn : m.definition.nodes.get? id = some n)
    (ref : String) :
    (m.impliedEdges id ref ((authoredEdges id n).filter fun x => x.ref = ref)).result =
      .ok (m.definition.impliedTo id n ref) := by
  have htypes : ((authoredEdges id n).filter fun x => x.ref = ref).map ExpandedEdge.type =
      n.typesTo ref := by
    simp only [authoredEdges, Node.typesTo, List.filter_map, List.map_map]
    rfl
  have hproperty : ∀ t ∈ (n.typesTo ref).eraseDups, t ∈ m.definition.properties := by
    intro t ht
    obtain ⟨e, he, rfl⟩ := List.mem_map.1 (List.mem_eraseDups.1 ht)
    exact ((hm.nodes id n hn).edges e (List.mem_filter.1 he).1).type
  -- a type that is mentioned again does not mention other types
  have hmentions : (((n.typesTo ref).eraseDups.flatMap m.definition.impliesOf).eraseDups.filter
      fun t => !(n.typesTo ref).eraseDups.contains t) =
      (m.definition.mentions n ref).eraseDups.filter fun t => t ∉ n.typesTo ref := by
    rw [eraseDups_flatMap_eraseDups]
    exact List.filter_congr fun t _ => by simp [List.mem_eraseDups]
  unfold impliedEdges
  rw [htypes]
  refine Traced.result_bind_ok.2 ⟨_, impliedTypes_eq hproperty, ?_⟩
  rw [hmentions]
  refine Traced.mapM_ok_map fun t ht => ?_
  obtain ⟨p, hp⟩ := Table.exists_get?
    (hm.implied_property (List.mem_eraseDups.1 (List.mem_filter.1 ht).1))
  have hedge : m.definition.impliedEdge id ref t =
      { source := id, ref, type := t, constants := p.constants, implied := true } := by
    simp [Definition.impliedEdge, hp]
  exact Traced.result_bind_ok.2 ⟨p, Derived.entry_ok.2 hp, by rw [hedge]; rfl⟩

/-- **The edges of a node of an accepted model:** those of the author, then the implied ones. -/
theorem expandedEdges_eq (hm : m.Accepted) {n : Node} (hn : m.definition.nodes.get? id = some n) :
    (m.expandedEdges id).result = .ok (authoredEdges id n ++ m.definition.impliedBy id n) := by
  have hgroups : ((groupBy ExpandedEdge.ref (authoredEdges id n)).entries.mapM
      fun g : String × List ExpandedEdge => m.impliedEdges id g.1 g.2).result =
      .ok ((groupBy ExpandedEdge.ref (authoredEdges id n)).entries.map
        fun g => m.definition.impliedTo id n g.1) := by
    refine Traced.mapM_ok_map fun g hg => ?_
    rw [(mem_groupBy hg).1]
    exact hm.impliedEdges_eq hn g.1
  -- the groups are those of the refs, which come in the order of the edges
  have hrefs : (groupBy ExpandedEdge.ref (authoredEdges id n)).entries.map Prod.fst =
      (n.edges.map Edge.target).eraseDups := by
    have htargets : (authoredEdges id n).map ExpandedEdge.ref = n.edges.map Edge.target :=
      List.map_map
    rw [← htargets]
    exact keys_groupBy
  have himplied : ((groupBy ExpandedEdge.ref (authoredEdges id n)).entries.map
      fun g => m.definition.impliedTo id n g.1).flatten = m.definition.impliedBy id n := by
    rw [Definition.impliedBy, ← hrefs, List.flatMap_def, List.map_map]
    rfl
  refine Traced.result_bind_ok.2 ⟨n, Derived.entry_ok.2 hn, ?_⟩
  refine Traced.result_bind_ok.2 ⟨_, hgroups, ?_⟩
  rw [himplied]
  rfl

/-- **The edges of a node can be expanded.** -/
theorem expandedEdges_ok (hm : m.Accepted) (hid : id ∈ m.definition.nodes) :
    ∃ edges, (m.expandedEdges id).result = .ok edges := by
  obtain ⟨n, hn⟩ := Table.exists_get? hid
  exact ⟨_, hm.expandedEdges_eq hn⟩

end Accepted

end Model

end ValuedGraph
