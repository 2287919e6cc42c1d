import ValuedGraph.Proofs.Model.Expansion

/-!
# Parents and children

A node tells which nodes its edges lead to, and which nodes have edges to it. The first are read from
its edges, implied ones included, the second from a graph that is made once from what the authors
wrote. Both say the same, since an implied edge leads where an edge of the author leads.

* `Model.Accepted.exists_ref_iff`: **implied edges lead nowhere else.**
* `Model.Accepted.mem_children`: the children of a node.
* `Model.infoAlong`, `info_run`: what reading a node gives, at any time.
* `parents_and_children_are_converse`: **parents and children.**
-/

namespace ValuedGraph

variable {m : Model} {s id k : String} {n : Node} {edges : List ExpandedEdge} {μ : Memo}

namespace Model

/-- **Implied edges lead nowhere else:** the edges of a node lead where those of its author do. -/
theorem Accepted.exists_ref_iff (hm : m.Accepted) (hn : m.node? id = some n)
    (hedges : m.edgesOf id = .ok edges) :
    (∃ x ∈ edges, x.ref = k) ↔ ∃ e ∈ n.edges, e.target = k := by
  obtain rfl := Except.ok.inj ((hm.edgesOf_eq hn).symm.trans hedges)
  constructor
  · rintro ⟨x, hx, rfl⟩
    rcases List.mem_append.1 hx with hx | hx
    · obtain ⟨e, he, href, -⟩ := mem_authoredEdges hx
      exact ⟨e, he, href.symm⟩
    · obtain ⟨ref, t, ht, -, rfl⟩ := Definition.mem_impliedBy.1 hx
      obtain ⟨e, he, href, -⟩ := Definition.mem_mentions.1 ht
      exact ⟨e, he, href⟩
  · rintro ⟨e, he, rfl⟩
    exact ⟨_, List.mem_append_left _ (List.mem_map_of_mem he), rfl⟩

/-- **The children of a node** are those whose authors wrote an edge to it. The root is a child of
none. -/
theorem Accepted.mem_children (hm : m.Accepted) (hn : m.node? id = some n) :
    id ∈ m.children k ↔ ∃ e ∈ n.edges, e.target = k := by
  rw [children, List.mem_filter, List.contains_iff_mem, Digraph.mem_successors, hm.mem_graph_edges]
  unfold node? at hn
  split at hn
  · rename_i hroot
    subst hroot
    obtain rfl := Option.some.inj hn
    exact iff_of_false (fun h => hm.root_not_mem h.1) nofun
  · constructor
    · rintro ⟨-, n', hn', he⟩
      obtain rfl := Option.some.inj (hn'.symm.trans hn)
      exact he
    · exact fun he => ⟨Table.mem_of_get? hn, n, hn, he⟩

/-- The distinct refs of some edges, without the root. -/
def parentsAlong (edges : List ExpandedEdge) : List String :=
  (edges.map ExpandedEdge.ref).eraseDups.filter (· != rootId)

theorem mem_parentsAlong : k ∈ parentsAlong edges ↔ k ≠ rootId ∧ ∃ x ∈ edges, x.ref = k := by
  simp [parentsAlong, and_comm]

theorem nodup_parentsAlong (edges : List ExpandedEdge) : (parentsAlong edges).Nodup :=
  (nodup_eraseDups _).filter _

/-- What a node with some edges tells about itself. -/
def infoAlong (m : Model) (id : String) (n : Node) (edges : List ExpandedEdge) : NodeInfo where
  id := id
  description := n.description
  displayName := displayName id n
  parents := parentsAlong edges
  children := m.children id

end Model

/-- **Reading a node** gives the same at the end of every run. -/
theorem info_run (hm : m.Accepted) (ops : List Operation) (hn : m.node? id = some n)
    (hedges : m.edgesOf id = .ok edges) :
    (m.info id (m.run ops {})).result = .ok (m.infoAlong id n edges) := by
  have hread : (m.edges id (m.run ops {})).result = .ok edges :=
    (yields_edges (memoOK_run hm ops) id).result.trans hedges
  have hparents : (m.parents id (m.run ops {})).result = .ok (Model.parentsAlong edges) :=
    (Session.bind_ok hread).1
  have hinfo : m.info id = m.parents id >>= fun parents =>
      pure { m.infoAlong id n edges with parents } := find_bind hn _
  rw [hinfo]
  exact (Session.bind_ok hparents).1

/-- **Parents and children.** Of two nodes of an accepted definition, either of which may be the root,
each tells the same about itself at the end of every run, under whatever scenario. The parents of one
are the refs of its edges, once each and without the root; the other one, or the root, counts it among
its children just if one of the edges leads there, so the two relations are converse. Children are
listed in the order of their declarations, once each. -/
theorem parents_and_children_are_converse {d : Definition} (h : d.accept = .ok m) {n' : Node}
    (hid : m.node? id = some n) (hk : m.node? k = some n') :
    ∃ (i j : NodeInfo) (edges : List ExpandedEdge),
      (∀ ops, (m.info id (m.run ops {})).result = .ok i ∧ (m.info k (m.run ops {})).result = .ok j ∧
        (m.read (.edges id) (m.run ops {})).result = .ok edges) ∧
      i.parents.Nodup ∧ (∀ r, r ∈ i.parents ↔ r ≠ rootId ∧ ∃ x ∈ edges, x.ref = r) ∧
      (id ∈ j.children ↔ ∃ x ∈ edges, x.ref = k) ∧
      (k ≠ rootId → (k ∈ i.parents ↔ id ∈ j.children)) ∧
      j.children.Sublist d.nodes.keys ∧ j.children.Nodup := by
  obtain ⟨hm, rfl⟩ := accepted_of_accept h
  have hedges := hm.edgesOf_eq hid
  have hchild : id ∈ m.children k ↔ ∃ x ∈ Model.authoredEdges id n ++ m.definition.impliedBy id n,
      x.ref = k := by
    rw [hm.mem_children hid, hm.exists_ref_iff hid hedges]
  have hparent : k ≠ rootId → (k ∈ Model.parentsAlong
      (Model.authoredEdges id n ++ m.definition.impliedBy id n) ↔ id ∈ m.children k) := by
    intro hne
    rw [Model.mem_parentsAlong, hchild, and_iff_right hne]
  have hsublist : (m.children k).Sublist m.definition.nodes.keys := List.filter_sublist
  refine ⟨_, _, _, fun ops => ⟨info_run hm ops hid hedges, info_run hm ops hk (hm.edgesOf_eq hk), ?_⟩,
    Model.nodup_parentsAlong _, fun r => Model.mem_parentsAlong, hchild, hparent, hsublist,
    hsublist.nodup (Table.nodup_keys _)⟩
  exact (read_edges_run hm ops hid).trans hedges

/-- The mouth of the estuary has the spring as its only parent, and is a child of the root, too, to
which one edge is written and two are implied. -/
theorem parents_and_children_are_converse_estuary : ∃ m, estuary.accept = .ok m ∧
    ∃ i j : NodeInfo, (∀ ops, (m.info "mouth" (m.run ops {})).result = .ok i ∧
      (m.info "spring" (m.run ops {})).result = .ok j) ∧ i.parents = ["spring"] ∧
      ("spring" ∈ i.parents ↔ "mouth" ∈ j.children) ∧
    ∃ root : NodeInfo, (∀ ops, (m.info rootId (m.run ops {})).result = .ok root) ∧
      "mouth" ∈ root.children := by
  have h : estuary.accept = .ok _ := rfl
  obtain ⟨i, j, _, hspring, -, -, -, hconverse, -⟩ :=
    @parents_and_children_are_converse _ "mouth" "spring" estuaryMouth _ h {} rfl rfl
  obtain ⟨_, root, edges, hroot, -, -, hchild, -⟩ :=
    @parents_and_children_are_converse _ "mouth" rootId estuaryMouth _ h Model.rootNode rfl rfl
  have hparents : i.parents = ["spring"] := by
    obtain rfl := Except.ok.inj (hspring []).1
    rfl
  have hedge : ∃ x ∈ edges, x.ref = rootId := by
    -- the second edge of the author is the silt to the root
    obtain rfl := Except.ok.inj (hroot []).2.2
    exact ⟨_, List.mem_cons_of_mem _ List.mem_cons_self, rfl⟩
  exact ⟨_, h, i, j, fun ops => ⟨(hspring ops).1, (hspring ops).2.1⟩, hparents, hconverse (by decide),
    root, fun ops => (hroot ops).2.1, hchild.2 hedge⟩

end ValuedGraph
