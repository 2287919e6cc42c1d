import ValuedGraph.Proofs.Model.Runs

/-!
# Exact expansion

Which edges are implied can be told from the edges of the author alone: a type comes with an edge
to a ref if the type of some edge to the ref lists it, and if the author did not write it. What is
implied implies nothing further.

* `Definition.Precedes`: the order of implied edges.
* `Definition.Implied`: **what the implied edges of a node have to be.**
* `Definition.Implied.unique`: no two lists are.
* `Definition.implied_impliedBy`: what is computed for a node is such a list.
* `edges_are_exact`: **the edges of a node** are those of the author and then the implied ones.
-/

namespace ValuedGraph

namespace Definition

variable {d : Definition} {id ref t : String} {n : Node} {x y : ExpandedEdge}

/-- **The order of implied edges:** the refs as the author's edges lead to them first, and to one
ref the types as the author's edges to it mention them first. -/
def Precedes (d : Definition) (n : Node) (x y : ExpandedEdge) : Prop :=
  (n.edges.map Edge.target).idxOf x.ref < (n.edges.map Edge.target).idxOf y.ref ∨
    x.ref = y.ref ∧ (d.mentions n x.ref).idxOf x.type < (d.mentions n x.ref).idxOf y.type

/-- **What the implied edges of a node have to be,** given the edges that the author wrote. -/
structure Implied (d : Definition) (id : String) (n : Node) (implied : List ExpandedEdge) : Prop where
  /-- there is one of a type to a ref just if an edge of the author to the ref implies the type, and
  none has it -/
  exists_iff : ∀ ref type, (∃ x ∈ implied, x.ref = ref ∧ x.type = type) ↔
    (∃ e ∈ n.edges, e.target = ref ∧ type ∈ d.impliesOf e.type) ∧
      ∀ e ∈ n.edges, e.target = ref → e.type ≠ type
  /-- there are no two of one type to one ref -/
  nodup : (implied.map fun x => (x.ref, x.type)).Nodup
  /-- each has the constants that its type declares -/
  carries : ∀ x ∈ implied, x.source = id ∧ x.implied = true ∧
    ∃ p, d.properties.get? x.type = some p ∧ x.constants = p.constants
  /-- they come ref by ref, and to one ref type by type -/
  ordered : implied.Pairwise (d.Precedes n)

theorem Precedes.ne (h : d.Precedes n x y) : (x.ref, x.type) ≠ (y.ref, y.type) := by
  intro heq
  obtain ⟨href, htype⟩ := Prod.mk.inj heq
  rcases h with hlt | ⟨-, hlt⟩
  · rw [href] at hlt
    exact lt_irrefl _ hlt
  · rw [htype] at hlt
    exact lt_irrefl _ hlt

theorem Precedes.asymm (h : d.Precedes n x y) : ¬ d.Precedes n y x := by
  rintro (hlt | ⟨href, hlt⟩)
  · rcases h with h | ⟨href, -⟩
    · omega
    · rw [href] at hlt
      exact lt_irrefl _ hlt
  · rcases h with h | ⟨-, h⟩
    · rw [href] at h
      exact lt_irrefl _ h
    · rw [href] at hlt
      omega

/-- Each of them is known by its ref and its type. -/
theorem Implied.eq_impliedEdge {implied : List ExpandedEdge} (h : d.Implied id n implied)
    (hx : x ∈ implied) : x = d.impliedEdge id x.ref x.type := by
  obtain ⟨hsource, himplied, p, hp, hconstants⟩ := h.carries x hx
  cases x
  simp_all [impliedEdge]

/-- **Nothing else** is what the implied edges of a node have to be. -/
theorem Implied.unique {l l' : List ExpandedEdge} (h : d.Implied id n l) (h' : d.Implied id n l') :
    l = l' := by
  have hmem : ∀ {l l'}, d.Implied id n l → d.Implied id n l' → ∀ x ∈ l, x ∈ l' := by
    intro l l' h h' x hx
    obtain ⟨y, hy, href, htype⟩ :=
      (h'.exists_iff x.ref x.type).2 ((h.exists_iff x.ref x.type).1 ⟨x, hx, rfl, rfl⟩)
    rw [h.eq_impliedEdge hx, ← href, ← htype, ← h'.eq_impliedEdge hy]
    exact hy
  have hperm : l.Perm l' := (List.perm_ext_iff_of_nodup h.nodup.of_map h'.nodup.of_map).2 fun x =>
    ⟨hmem h h' x, hmem h' h x⟩
  refine hperm.eq_of_pairwise (fun x y _ _ hxy hyx => ?_) h.ordered h'.ordered
  exact absurd hyx hxy.asymm

theorem mem_mentions :
    t ∈ d.mentions n ref ↔ ∃ e ∈ n.edges, e.target = ref ∧ t ∈ d.impliesOf e.type := by
  rw [mentions, List.mem_flatMap]
  constructor
  · rintro ⟨s, hs, ht⟩
    obtain ⟨e, he, href, rfl⟩ := Node.mem_typesTo.1 hs
    exact ⟨e, he, href, ht⟩
  · rintro ⟨e, he, href, ht⟩
    exact ⟨e.type, Node.mem_typesTo.2 ⟨e, he, href, rfl⟩, ht⟩

theorem mem_impliedTo : x ∈ d.impliedTo id n ref ↔
    ∃ t ∈ d.mentions n ref, t ∉ n.typesTo ref ∧ x = d.impliedEdge id ref t := by
  rw [impliedTo, List.mem_map]
  constructor
  · rintro ⟨t, ht, rfl⟩
    obtain ⟨hmention, hnot⟩ := List.mem_filter.1 ht
    exact ⟨t, List.mem_eraseDups.1 hmention, of_decide_eq_true hnot, rfl⟩
  · rintro ⟨t, ht, hnot, rfl⟩
    exact ⟨t, List.mem_filter.2 ⟨List.mem_eraseDups.2 ht, decide_eq_true hnot⟩, rfl⟩

/-- The implied edges of a node, one by one. -/
theorem mem_impliedBy : x ∈ d.impliedBy id n ↔ ∃ ref, ∃ t ∈ d.mentions n ref,
    t ∉ n.typesTo ref ∧ x = d.impliedEdge id ref t := by
  rw [impliedBy, List.mem_flatMap]
  constructor
  · rintro ⟨ref, -, hx⟩
    exact ⟨ref, mem_impliedTo.1 hx⟩
  · rintro ⟨ref, t, ht, h⟩
    obtain ⟨e, he, href, -⟩ := mem_mentions.1 ht
    have htarget : ref ∈ n.edges.map Edge.target := List.mem_map.2 ⟨e, he, href⟩
    exact ⟨ref, List.mem_eraseDups.2 htarget, mem_impliedTo.2 ⟨t, ht, h⟩⟩

/-- To one ref, types stand in the order in which they are mentioned. -/
theorem pairwise_impliedTo : (d.impliedTo id n ref).Pairwise (d.Precedes n) := by
  refine List.pairwise_map.2 (((pairwise_eraseDups _).filter _).imp fun hlt => ?_)
  exact Or.inr ⟨rfl, hlt⟩

theorem pairwise_impliedBy : (d.impliedBy id n).Pairwise (d.Precedes n) := by
  refine List.pairwise_flatMap.2 ⟨fun ref _ => pairwise_impliedTo, ?_⟩
  refine (pairwise_eraseDups _).imp fun {r s} hlt x hx y hy => ?_
  obtain ⟨_, -, -, rfl⟩ := mem_impliedTo.1 hx
  obtain ⟨_, -, -, rfl⟩ := mem_impliedTo.1 hy
  exact Or.inl hlt

/-- **The implied edges of a node are what they have to be,** if whatever is implied is a property. -/
theorem implied_impliedBy (h : ∀ ref, ∀ t ∈ d.mentions n ref, t ∈ d.properties) :
    d.Implied id n (d.impliedBy id n) where
  exists_iff ref type := by
    rw [← mem_mentions]
    constructor
    · rintro ⟨x, hx, rfl, rfl⟩
      obtain ⟨ref, t, ht, hnot, rfl⟩ := mem_impliedBy.1 hx
      refine ⟨ht, fun e he href htype => hnot (Node.mem_typesTo.2 ⟨e, he, href, htype⟩)⟩
    · rintro ⟨ht, hnot⟩
      have htypes : type ∉ n.typesTo ref := by
        intro hmem
        obtain ⟨e, he, href, htype⟩ := Node.mem_typesTo.1 hmem
        exact hnot e he href htype
      exact ⟨_, mem_impliedBy.2 ⟨ref, type, ht, htypes, rfl⟩, rfl, rfl⟩
  nodup := List.pairwise_map.2 (pairwise_impliedBy.imp Precedes.ne)
  carries := by
    intro x hx
    obtain ⟨ref, t, ht, -, rfl⟩ := mem_impliedBy.1 hx
    obtain ⟨p, hp⟩ := Table.exists_get? (h ref t ht)
    exact ⟨rfl, rfl, p, hp, by simp [impliedEdge, hp]⟩
  ordered := pairwise_impliedBy

end Definition

variable {m : Model} {id : String} {n : Node}

/-- What reading the edges of a node gives, in an accepted model. The root has no edges. -/
theorem Model.Accepted.edgesOf_eq (hm : m.Accepted) (hn : m.node? id = some n) :
    m.edgesOf id = .ok (authoredEdges id n ++ m.definition.impliedBy id n) := by
  unfold Model.node? at hn
  unfold Model.edgesOf
  split at hn
  · rename_i hroot
    obtain rfl := Option.some.inj hn
    rw [if_pos hroot]
    rfl
  · rename_i hroot
    rw [if_neg hroot]
    exact hm.expandedEdges_eq hn

/-- **Edge expansion is exact.** At the end of every run, the edges of a node of an accepted
definition, the root included, are those that its author wrote, in their order, and then just the
edges that have to be implied. Each of these leads where an edge of the author leads that implies
it itself, so implied edges do not imply others. -/
theorem edges_are_exact {d : Definition} (h : d.accept = .ok m) (ops : List Operation)
    (hn : m.node? id = some n) :
    ∃ implied, (m.read (.edges id) (m.run ops {})).result = .ok (Model.authoredEdges id n ++ implied) ∧
      d.Implied id n implied ∧ (∀ l, d.Implied id n l → l = implied) ∧
      ∀ x ∈ implied, ∃ e ∈ n.edges, e.target = x.ref ∧ x.type ∈ d.impliesOf e.type := by
  obtain ⟨hm, rfl⟩ := accepted_of_accept h
  have himplied : m.definition.Implied id n (m.definition.impliedBy id n) :=
    Definition.implied_impliedBy fun _ _ ht => hm.implied_property ht
  refine ⟨_, ?_, himplied, fun l hl => hl.unique himplied, fun x hx => ?_⟩
  · rw [read_edges_run hm ops hn]
    exact hm.edgesOf_eq hn
  · exact ((himplied.exists_iff x.ref x.type).1 ⟨x, hx, rfl, rfl⟩).1

/-- The mouth of a estuary, with two edges of one type to the spring. -/
def estuaryMouth : Node where
  edges := [
    { type := "flow", ref := some "spring" }, { type := "silt" }, { type := "salt", ref := some "spring" },
    { type := "flow", ref := some "spring" }]

/-- A estuary: what flows takes silt and salt along, and silt comes with a flow and a load. -/
def estuary : Definition where
  properties := .ofList [
    ("flow", { name := "flow", value := .parentValue "flow", implies := ["silt", "salt"] }),
    ("silt",
      { name := "silt", value := .parentValue "silt", implies := ["load", "flow"]
        constants := .ofList [("grain", 0.5)] }),
    ("salt", { name := "salt", value := .parentValue "salt" }),
    ("load", { name := "load", value := .parentValue "load", implies := ["salt"] })]
  nodes := .ofList [("mouth", estuaryMouth), ("spring", {})]

/-- The salt to the spring is written, silt does not imply a load there, and the load to the root
does not imply salt. -/
theorem edges_are_exact_estuary : ∃ m implied, estuary.accept = .ok m ∧
    (m.read (.edges "mouth") (m.run [.read .allEdges, .invalidate, .read .summary] {})).result =
      .ok (Model.authoredEdges "mouth" estuaryMouth ++ implied) ∧
    estuary.Implied "mouth" estuaryMouth implied ∧
    implied.map (fun x => (x.ref, x.type)) =
      [("spring", "silt"), (rootId, "load"), (rootId, "flow")] := by
  have h : estuary.accept = .ok _ := rfl
  obtain ⟨implied, hread, himplied, hunique, -⟩ :=
    @edges_are_exact _ "mouth" estuaryMouth _ h [.read .allEdges, .invalidate, .read .summary] rfl
  refine ⟨_, implied, h, hread, himplied, ?_⟩
  obtain ⟨hm, hdefinition⟩ := accepted_of_accept h
  have hproperty : ∀ ref, ∀ t ∈ estuary.mentions estuaryMouth ref, t ∈ estuary.properties := by
    intro ref t ht
    rw [← hdefinition] at ht ⊢
    exact hm.implied_property ht
  rw [← hunique _ (Definition.implied_impliedBy hproperty)]
  rfl

end ValuedGraph
