import ValuedGraph.Model.Session
import ValuedGraph.Proofs.Model.Edges
import ValuedGraph.Proofs.Model.Propagation

/-!
# What reading gives

The outcome of every read of a model under a scenario, without a memo. Of what is known about
other nodes, a node uses no more than what is known about those that its edges lead to, so
tags and values propagate along edges.

* `Model.edgesOf`, `Model.tagsOf`, `Model.rootOf`, `Model.valuesOf`, `Model.drawingOf`: the
  outcomes of reads.
* `Model.tagging`, `Model.valuation`: **tags and values as propagations.**
* `Model.valueTable_congr`, `Model.drawnEdges_congr`: what is known about other nodes does not
  matter.
-/

namespace ValuedGraph

namespace Model

variable {m : Model} {σ : Scenario} {id : String} {i : Inputs} {t : Table (Table Float)}

section Locality

/-- The values of the refs of some edges are the same in another table. -/
theorem surroundings_congr {typed : List ExpandedEdge} {p : Property} {tags : TagMembership}
    {results : Table Float}
    (h : ∀ e ∈ typed, e.ref ≠ rootId → i.known.get? e.ref = t.get? e.ref) :
    m.surroundings { i with known := t } p typed tags results =
      m.surroundings i p typed tags results := by
  have href : ∀ e ∈ typed, ({ i with known := t } : Inputs).refValues e.ref = i.refValues e.ref := by
    intro e he
    unfold Inputs.refValues
    split
    · rfl
    · rename_i hroot
      simp only [Derived.entry, h e he hroot]
  unfold surroundings
  rw [Traced.mapM_congr href]

theorem baseValue_congr {name : String} {p : Property} {tags : TagMembership}
    {results : Table Float}
    (h : ∀ e ∈ i.edges, e.ref ≠ rootId → i.known.get? e.ref = t.get? e.ref) :
    m.baseValue { i with known := t } name p tags results = m.baseValue i name p tags results := by
  have hs : m.surroundings { i with known := t } p (i.edges.filter fun e => e.type == name) tags
      results = m.surroundings i p (i.edges.filter fun e => e.type == name) tags results :=
    surroundings_congr fun e he => h e (List.mem_filter.1 he).1
  unfold baseValue
  simp only [hs]

/-- **The values of a node use no more than those of its refs.** -/
theorem valueTable_congr
    (h : ∀ e ∈ i.edges, e.ref ≠ rootId → i.known.get? e.ref = t.get? e.ref) :
    m.valueTable { i with known := t } = m.valueTable i := by
  have hadd : m.addValue { i with known := t } = m.addValue i := by
    funext results name
    unfold addValue valueOf
    simp only [baseValue_congr h]
  unfold valueTable
  rw [hadd]

/-- **The drawing of a node uses no more than the values of its refs.** -/
theorem drawnEdges_congr {results : Table Float}
    (h : ∀ e ∈ i.edges, e.ref ≠ rootId → i.known.get? e.ref = t.get? e.ref) :
    m.drawnEdges id { i with known := t } results = m.drawnEdges id i results := by
  unfold drawnEdges
  have hgroup : ∀ g ∈ (groupBy ExpandedEdge.ref i.edges).entries,
      (do return (g.1, ← (groupBy ExpandedEdge.type g.2).entries.mapM fun e =>
        m.edgeGroup { i with known := t } results e.1 e.2) : Derived (String × List EdgeGroup)) =
      do return (g.1, ← (groupBy ExpandedEdge.type g.2).entries.mapM fun e =>
        m.edgeGroup i results e.1 e.2) := by
    intro g hg
    rw [Traced.mapM_congr fun e he => ?_]
    -- the members of the groups are edges of the node
    have hs : ∀ p tags, m.surroundings { i with known := t } p e.2 tags results =
        m.surroundings i p e.2 tags results := fun p tags => surroundings_congr fun x hx =>
      h x (mem_of_mem_groupBy hg (mem_of_mem_groupBy he hx).1).1
    unfold edgeGroup
    simp only [hs]
  simp only [Traced.mapM_congr hgroup]

/-- **The tags of a node use no more than those of its refs.** -/
theorem tagTable_congr {edges : List ExpandedEdge} {known known' : Table (Table TagMembership)}
    (h : ∀ e ∈ edges, e.ref ≠ rootId → known.get? e.ref = known'.get? e.ref) :
    m.tagTable id edges known = m.tagTable id edges known' := by
  have htags : ∀ own, tagsFor own edges known = tagsFor own edges known' := by
    intro own
    funext name p
    have hmap := Traced.mapM_congr
      (l := edges.filter fun e => e.type == name && e.ref != rootId)
      (f := fun e => do
        return (← Derived.entry (← Derived.entry known e.ref) name).all)
      (g := fun e => do
        return (← Derived.entry (← Derived.entry known' e.ref) name).all)
      fun e he => by
        obtain ⟨hmem, hcond⟩ := List.mem_filter.1 he
        have hroot : e.ref ≠ rootId := by simp_all
        simp only [Derived.entry, h e hmem hroot]
    unfold tagsFor
    simp only [hmap]
  unfold tagTable
  simp only [htags]

end Locality

/-- What reading the edges of a node gives. -/
def edgesOf (m : Model) (id : String) : Except ReadFailure (List ExpandedEdge) :=
  if id = rootId then .ok [] else (m.expandedEdges id).result

/-- Edges lead to the root or to refs. -/
theorem mem_refs_of_edgesOf {edges : List ExpandedEdge} (h : m.edgesOf id = .ok edges)
    {e : ExpandedEdge} (he : e ∈ edges) (hroot : e.ref ≠ rootId) : e.ref ∈ m.refs id := by
  unfold edgesOf at h
  split at h
  · obtain rfl := Except.ok.inj h
    simp at he
  · exact (ref_of_mem_expandedEdges h he).resolve_left hroot

/-- **Tags propagate along edges.** -/
def tagging (m : Model) : Propagation m (Table TagMembership) where
  step known id := (m.edgesOf id).bind fun edges => (m.tagTable id edges known).result
  congr := by
    intro known known' id h
    cases hedges : m.edgesOf id with
    | error f => simp only [Except.bind]
    | ok edges =>
      simp only [Except.bind]
      rw [tagTable_congr fun e he hroot => h e.ref (mem_refs_of_edgesOf hedges he hroot)]

/-- The tags of a node are computed from its edges and the tags of its refs. -/
theorem outcome_tagging : m.tagging.outcome id = (m.edgesOf id).bind fun edges =>
    (m.tagTable id edges m.tagging.settled).result := rfl

/-- **The tags of a node** are computed from edges that are there. -/
theorem outcome_tagging_ok {tags : Table TagMembership} : m.tagging.outcome id = .ok tags ↔
    ∃ edges, m.edgesOf id = .ok edges ∧
      (m.tagTable id edges m.tagging.settled).result = .ok tags := by
  rw [outcome_tagging]
  cases m.edgesOf id <;> simp [Except.bind]

/-- What reading the tags of a node gives. -/
def tagsOf (m : Model) (id : String) : Except ReadFailure (Table TagMembership) :=
  if id = rootId then .ok m.rootTags else m.tagging.reading id

/-- What reading the values of the root gives. -/
def rootOf (m : Model) (σ : Scenario) : Except ReadFailure (Table Float) := (m.rootTable σ).result

/-- What the values of a node are computed from, given the values of other nodes. -/
def inputsFrom (m : Model) (σ : Scenario) (known : Table (Table Float)) (id : String) :
    Except ReadFailure Inputs :=
  (m.node id).result.bind fun node => (m.rootOf σ).bind fun root =>
    (m.edgesOf id).bind fun edges => (m.tagsOf id).bind fun tags =>
      .ok { node, overrides := σ.overrides id, root, edges, tags, known }

/-- What is known about other nodes is passed on. -/
theorem inputsFrom_map (known : Table (Table Float)) : m.inputsFrom σ known id =
    (m.inputsFrom σ t id).map fun i => { i with known } := by
  unfold inputsFrom
  cases (m.node id).result with
  | error f => rfl
  | ok node =>
    cases m.rootOf σ with
    | error f => rfl
    | ok root =>
      cases m.edgesOf id with
      | error f => rfl
      | ok edges => cases m.tagsOf id <;> rfl

/-- **The parts of the inputs of a node.** -/
theorem inputsFrom_ok : m.inputsFrom σ t id = .ok i ↔
    m.definition.nodes.get? id = some i.node ∧ i.overrides = σ.overrides id ∧
      m.rootOf σ = .ok i.root ∧ m.edgesOf id = .ok i.edges ∧ m.tagsOf id = .ok i.tags ∧
      i.known = t := by
  have hnode : ∀ n, (m.node id).result = .ok n ↔ m.definition.nodes.get? id = some n := fun n =>
    Derived.entry_ok
  unfold inputsFrom
  cases hn : (m.node id).result with
  | error f =>
    have hne : ¬ m.definition.nodes.get? id = some i.node := by
      rw [← hnode, hn]
      simp
    simp [Except.bind, hne]
  | ok node =>
    rw [hnode] at hn
    simp only [hn, Except.bind]
    cases m.rootOf σ with
    | error f => simp
    | ok root =>
      cases m.edgesOf id with
      | error f => simp
      | ok edges =>
        cases m.tagsOf id with
        | error f => simp
        | ok tags =>
          simp only [Except.ok.injEq, Option.some.injEq]
          constructor
          · rintro rfl
            simp
          · obtain ⟨⟩ := i
            simp_all

/-- **Values propagate along edges,** under each scenario. -/
def valuation (m : Model) (σ : Scenario) : Propagation m (Table Float) where
  step known id := (m.inputsFrom σ known id).bind fun i => (m.valueTable i).result
  congr := by
    intro t u id h
    rw [inputsFrom_map (t := t) u]
    cases hin : m.inputsFrom σ t id with
    | error f => simp only [Except.bind, Except.map]
    | ok i =>
      obtain ⟨-, -, -, hedges, -, rfl⟩ := inputsFrom_ok.1 hin
      simp only [Except.bind, Except.map]
      rw [valueTable_congr fun e he hroot => h e.ref (mem_refs_of_edgesOf hedges he hroot)]

/-- What reading the values of a node gives. -/
def valuesOf (m : Model) (σ : Scenario) (id : String) : Except ReadFailure (Table Float) :=
  if id = rootId then m.rootOf σ else (m.valuation σ).reading id

/-- What the values and the drawing of a node are computed from. -/
def inputsOf (m : Model) (σ : Scenario) (id : String) : Except ReadFailure Inputs :=
  m.inputsFrom σ (m.valuation σ).settled id

/-- What is computed for a node is computed from its inputs. -/
theorem outcome_valuation : (m.valuation σ).outcome id =
    (m.inputsOf σ id).bind fun i => (m.valueTable i).result := rfl

/-- **The values of a node** are computed from inputs that are there. -/
theorem outcome_valuation_ok {v : Table Float} : (m.valuation σ).outcome id = .ok v ↔
    ∃ i, m.inputsOf σ id = .ok i ∧ (m.valueTable i).result = .ok v := by
  rw [outcome_valuation]
  cases m.inputsOf σ id <;> simp [Except.bind]

/-- What reading the drawn edges of a node gives. -/
def drawingOf (m : Model) (σ : Scenario) (id : String) : Except ReadFailure (List DrawnEdge) :=
  if id = rootId then .ok []
  else ((m.valuation σ).reading id).bind fun values => (m.inputsOf σ id).bind fun i =>
    (m.drawnEdges id i values).result

end Model

end ValuedGraph
