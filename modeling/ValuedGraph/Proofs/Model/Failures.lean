import ValuedGraph.Proofs.Model.Safety

/-!
# Failures of reads

A read of an accepted model fails for a node that is not known, or in a way that acceptance
cannot rule out: an array is empty, arithmetic fails, or an override of the active scenario
fails. Expressions other than overrides never miss anything.

* `Model.Evaluates`: **what is evaluated, and in which surroundings,** overrides apart.
* `evaluates_finds`: such an evaluation misses nothing.
* `Safe`: a session that only fails in ways that are tolerable.
* `reads_find_everything`: both, after any run.
-/

namespace ValuedGraph

namespace Model

/-- **An expression and the surroundings it is evaluated in,** overrides of scenarios apart. -/
inductive Evaluates (m : Model) (μ : Memo) : Expr → Surroundings → Prop where
  /-- a property of a node, once the values of the node's refs are known -/
  | value {id name : String} {i : Inputs} {before after : List String} {results : Table Float}
      {p : Property} {t : TagMembership} {σ : Surroundings}
      (hrefs : ∀ r ∈ m.refs id, r ∈ μ.values) (hi : (m.inputs id μ).result = .ok i)
      (horder : m.propertyOrder = before ++ name :: after)
      (hresults : (before.foldlM (m.addValue i) ∅).result = .ok results)
      (hp : m.definition.properties.get? name = some p)
      (hσ : (m.surroundings i p (i.edges.filter fun e => e.type == name) t results).result = .ok σ) :
      Evaluates m μ p.value σ
  /-- a display setting of the edges of one type to one ref -/
  | edgeDisplay {id ref type key : String} {values : Table Float} {i : Inputs}
      {edges typed : List ExpandedEdge} {g : EdgeGroup} {e : Expr}
      (hvalues : (m.nodeValues id μ).result = .ok values)
      (hi : (m.inputs id (m.nodeValues id μ).memo).result = .ok i)
      (href : (ref, edges) ∈ (groupBy ExpandedEdge.ref i.edges).entries)
      (htype : (type, typed) ∈ (groupBy ExpandedEdge.type edges).entries)
      (hg : (m.edgeGroup i values type typed).result = .ok g)
      (he : (key, e) ∈ g.display.entries) : Evaluates m μ e g.surroundings
  /-- a display setting of edges drawn as one, with an array for each of them as input -/
  | mergedDisplay {id key : String} {values : Table Float} {i : Inputs} {e : Expr}
      {input : List Float} (hvalues : (m.nodeValues id μ).result = .ok values)
      (hi : (m.inputs id (m.nodeValues id μ).memo).result = .ok i)
      (he : (key, e) ∈ m.definition.display.edgeCombiner.entries) :
      Evaluates m μ e
        { root := i.root, results := values, tagConstants := m.tagConstants, input := some input }
  /-- a display setting of a node, the root included -/
  | nodeDisplay {id key : String} {n : Node} {root values : Table Float} {t : TagMembership}
      {e : Expr} (hn : m.node? id = some n) (hroot : (m.rootValues μ).result = .ok root)
      (hvalues : (m.values id μ).result = .ok values)
      (he : (key, e) ∈ (m.definition.nodeDisplay n).entries) :
      Evaluates m μ e { root, results := values, tags := t, tagConstants := m.tagConstants }

/-- The root has no display settings of its own. -/
theorem display_of_node? {m : Model} {id : String} {n : Node} (h : m.node? id = some n) :
    n.display = ∅ ∨ m.definition.nodes.get? id = some n := by
  unfold node? at h
  split at h
  · rw [← Option.some.inj h]
    exact Or.inl rfl
  · exact Or.inr h

end Model

variable {α β : Type} {m : Model} {s id : String} {μ : Memo}

/-- The inputs of a node whose refs are known. -/
theorem inputsOK_of_inputs (hm : m.Accepted) (hμ : MemoOK m s μ)
    (hrefs : ∀ r ∈ m.refs id, r ∈ μ.values) {i : Model.Inputs} (hi : (m.inputs id μ).result = .ok i) :
    m.InputsOK i := by
  have hy := yields_inputs hm hμ id
  refine hm.inputsOK (hy.result.symm.trans hi) fun r hr => ?_
  obtain ⟨u, hu, hout⟩ := hy.memo.values.outcome_ok (hy.below.values r (hrefs r hr))
  exact ⟨u, hu, fun k hk => (hm.mem_outcome hout).2 hk⟩

/-- Once the values of a node have been read, its inputs are complete. -/
theorem inputsOK_of_nodeValues (hm : m.Accepted) (hμ : MemoOK m s μ) {values : Table Float}
    (hvalues : (m.nodeValues id μ).result = .ok values) {i : Model.Inputs}
    (hi : (m.inputs id (m.nodeValues id μ).memo).result = .ok i) :
    m.InputsOK i ∧ ∀ k ∈ m.definition.properties, k ∈ values := by
  have hy := yields_nodeValues hm hμ id
  have hknown := mem_values_of_nodeValues hvalues
  refine ⟨inputsOK_of_inputs hm hy.memo (fun r hr => hy.memo.values.closed id hknown r hr) hi, ?_⟩
  intro k hk
  exact (hm.mem_outcome (Propagation.reading_ok.1 (hy.result.symm.trans hvalues)).1).2 hk

/-- **An evaluation misses nothing.** -/
theorem evaluates_finds (hm : m.Accepted) (hμ : MemoOK m s μ) {e : Expr} {σ : Surroundings}
    (h : m.Evaluates μ e σ) : (e.evaluate σ).Finds := by
  cases h with
  | value hrefs hi horder hresults hp hσ =>
    -- the dependencies of a property are in front of it, and so among the results
    refine hm.value_finds (inputsOK_of_inputs hm hμ hrefs hi) hp
      (fun e he => (List.mem_filter.1 he).1) (fun k hk => ?_) hσ
    exact (Model.mem_valuesSoFar hresults).2 (hm.propertyOrder_ok.2.2 _ _ _ horder _ hp k hk)
  | edgeDisplay hvalues hi href htype hg he =>
    obtain ⟨hok, hfull⟩ := inputsOK_of_nodeValues hm hμ hvalues hi
    obtain ⟨htyped, hprop⟩ := Model.Accepted.mem_groups hok href htype
    exact (hm.edgeGroup_ok hok hfull htyped hprop).2 _ hg _ _ he
  | mergedDisplay hvalues hi he =>
    obtain ⟨hok, hfull⟩ := inputsOK_of_nodeValues hm hμ hvalues hi
    exact hm.mergedDisplay_finds (fun k hk => (hok.root k).2 hk) hfull he _
  | nodeDisplay hn hroot hvalues he =>
    have hroot := (yields_rootValues hμ).result.symm.trans hroot
    have hvalues := (yields_values hm hμ _).result.symm.trans hvalues
    exact hm.nodeDisplay_finds (Model.display_of_node? hn) (fun k hk => (hm.mem_rootOf hroot).2 hk)
      (fun k hk => (hm.mem_valuesOf hvalues).2 hk) he

/-- **A session that only fails in ways that are tolerable,** and otherwise answers as it
should. -/
def Safe (m : Model) (s : String) (x : Session α) (answer : α → Prop) : Prop :=
  ∀ μ, MemoOK m s μ → (∀ f, (x μ).result = .error f → m.Tolerable s f) ∧
    ∀ a, (x μ).result = .ok a → answer a

section Safe

variable {x : Session α} {f : α → Session β} {answer : α → Prop} {answer' : β → Prop}

theorem safe_pure {a : α} (h : answer a) : Safe m s (pure a) answer := by
  intro μ _
  refine ⟨fun f hf => (by cases hf), fun b hb => ?_⟩
  rwa [← Except.ok.inj hb]

theorem safe_derive {x : Derived α} (herror : ∀ f, x.result = .error f → m.Tolerable s f)
    (hok : ∀ a, x.result = .ok a → answer a) : Safe m s (Session.derive x) answer :=
  fun _ _ => ⟨herror, hok⟩

/-- A session that yields an outcome is safe if the outcome is. -/
theorem safe_of_yields {r : Except ReadFailure α} (hx : ∀ μ, MemoOK m s μ → Yields m s x μ r)
    (herror : ∀ f, r = .error f → m.Tolerable s f) (hok : ∀ a, r = .ok a → answer a) :
    Safe m s x answer := by
  intro μ hμ
  rw [(hx μ hμ).result]
  exact ⟨herror, hok⟩

theorem safe_bind (hsteady : Steady m s x) (hx : Safe m s x answer)
    (hf : ∀ a, answer a → Safe m s (f a) answer') : Safe m s (x >>= f) answer' := by
  intro μ hμ
  obtain ⟨r, hr⟩ := hsteady
  obtain ⟨herror, hok⟩ := hx μ hμ
  cases hres : (x μ).result with
  | error e =>
    rw [(Session.bind_error hres).1]
    refine ⟨fun f hf => ?_, fun b hb => by cases hb⟩
    rw [← Except.error.inj hf]
    exact herror e hres
  | ok a =>
    rw [(Session.bind_ok hres).1]
    exact hf a (hok a hres) _ (hr μ hμ).memo

theorem safe_mapM {l : List α} (hsteady : ∀ a ∈ l, Steady m s (f a))
    (hf : ∀ a ∈ l, Safe m s (f a) fun _ => True) : Safe m s (l.mapM f) fun _ => True := by
  induction l with
  | nil => exact safe_pure trivial
  | cons a l ih =>
    rw [List.mapM_cons]
    have hsteady' : ∀ b ∈ l, Steady m s (f b) := fun b hb => hsteady b (by simp [hb])
    refine safe_bind (hsteady a (by simp)) (hf a (by simp)) fun b _ => ?_
    refine safe_bind (steady_mapM hsteady') (ih hsteady' fun b hb => hf b (by simp [hb])) fun _ _ => ?_
    exact safe_pure trivial

theorem safe_rootValues (hm : m.Accepted) :
    Safe m s m.rootValues fun v => ∀ k ∈ m.definition.properties, k ∈ v :=
  safe_of_yields (fun _ hμ => yields_rootValues hμ)
    (fun _ hf => .numerical (hm.numerical_of_rootOf hf))
    fun _ hv _ hk => (hm.mem_rootOf hv).2 hk

theorem safe_values (hm : m.Accepted) (hid : id = rootId ∨ id ∈ m.definition.nodes) :
    Safe m s (m.values id) fun v => ∀ k ∈ m.definition.properties, k ∈ v :=
  safe_of_yields (fun _ hμ => yields_values hm hμ id) (fun _ hf => hm.tolerable_of_valuesOf hid hf)
    fun _ hv _ hk => (hm.mem_valuesOf hv).2 hk

theorem safe_nodeValues (hm : m.Accepted) (hid : id ∈ m.definition.nodes) :
    Safe m s (m.nodeValues id) fun v => ∀ k ∈ m.definition.properties, k ∈ v :=
  safe_of_yields (fun _ hμ => yields_nodeValues hm hμ id) (fun _ hf => hm.tolerable_of_reading hid hf)
    fun _ hv _ hk => (hm.mem_outcome (Propagation.reading_ok.1 hv).1).2 hk

theorem safe_edges (hm : m.Accepted) (hid : id = rootId ∨ id ∈ m.definition.nodes) :
    Safe m s (m.edges id) fun _ => True := by
  refine safe_of_yields (fun _ hμ => yields_edges hμ id) (fun f hf => ?_) fun _ _ => trivial
  obtain ⟨edges, hedges⟩ := hm.exists_edgesOf hid
  rw [hedges] at hf
  cases hf

theorem safe_tags (hm : m.Accepted) (hid : id = rootId ∨ id ∈ m.definition.nodes) :
    Safe m s (m.tags id) fun _ => True := by
  refine safe_of_yields (fun _ hμ => yields_tags hm hμ id) (fun f hf => ?_) fun _ _ => trivial
  obtain ⟨tags, htags⟩ := hm.exists_tagsOf hid
  rw [htags] at hf
  cases hf

theorem safe_drawing (hm : m.Accepted) (hid : id = rootId ∨ id ∈ m.definition.nodes) :
    Safe m s (m.drawing id) fun _ => True :=
  safe_of_yields (fun _ hμ => yields_drawing hm hμ id) (fun _ hf => hm.tolerable_of_drawingOf hid hf)
    fun _ _ => trivial

theorem safe_find {n : Node} (hn : m.node? id = some n) : Safe m s (m.find id) (· = n) := by
  rw [Model.find, hn]
  exact safe_pure rfl

/-- **The tags of all properties together.** -/
theorem safe_allTags (hm : m.Accepted) {n : Node} (hn : m.node? id = some n) :
    Safe m s (m.allTags id) fun _ => True :=
  safe_bind (steady_find id) (safe_find hn) fun _ _ =>
    safe_bind ⟨_, fun _ hμ => yields_tags hm hμ id⟩ (safe_tags hm (Model.known_of_node? hn)) fun _ _ =>
      safe_pure trivial

/-- **Drawing a node.** -/
theorem safe_draw (hm : m.Accepted) {n : Node} (hn : m.node? id = some n) :
    Safe m s (m.draw id) fun _ => True := by
  have hid := Model.known_of_node? hn
  refine safe_bind (steady_find id) (safe_find hn) ?_
  rintro _ rfl
  refine safe_bind ⟨_, fun _ hμ => yields_rootValues hμ⟩ (safe_rootValues hm) fun root hroot => ?_
  refine safe_bind ⟨_, fun _ hμ => yields_values hm hμ id⟩ (safe_values hm hid) fun values hvalues => ?_
  refine safe_bind (steady_allTags hm id) (safe_allTags hm hn) fun tags _ => ?_
  refine safe_derive (fun f hf => ?_) fun _ _ => trivial
  obtain ⟨failure, heval, rfl⟩ := Traced.result_mapError_error.1 hf
  refine .numerical (Model.numerical_of_finds ?_ heval)
  have hsetting := Model.Accepted.settingNumber_finds fun key e he =>
    hm.nodeDisplay_finds (t := tags) (Model.display_of_node? hn) hroot hvalues he
  refine Eval.finds_bind (hsetting _ _) fun _ _ => ?_
  refine Eval.finds_bind (hsetting _ _) fun _ _ => ?_
  refine Eval.finds_bind (hsetting _ _) fun _ _ => ?_
  refine Eval.finds_bind (hsetting _ _) fun _ _ => ?_
  refine Eval.finds_bind (hsetting _ _) fun _ _ => ?_
  exact Eval.finds_bind (hsetting _ _) fun _ _ => Eval.finds_pure _

/-- **The values of all nodes,** reduced property by property. -/
theorem safe_summary (hm : m.Accepted) : Safe m s m.summary fun _ => True := by
  refine safe_mapM (fun name _ => steady_summaryOf hm name) fun name hname => ?_
  have hname := (hm.propertyOrder_ok.2.1 name).1 hname
  have hproperty : Safe m s (Session.derive (m.property name)) fun _ => True :=
    safe_derive (fun f hf => absurd hname (Derived.entry_error.1 hf).1) fun _ _ => trivial
  refine safe_bind (steady_derive _) hproperty fun p _ => ?_
  have hcolumn : Safe m s (m.column name) fun _ => True := by
    refine safe_mapM (fun id _ => steady_bind ⟨_, fun _ hμ => yields_nodeValues hm hμ id⟩ fun _ =>
      steady_derive _) fun id hid => ?_
    refine safe_bind ⟨_, fun _ hμ => yields_nodeValues hm hμ id⟩ (safe_nodeValues hm hid) ?_
    intro values hvalues
    -- a node has values for all properties
    refine safe_derive (fun f hf => ?_) fun _ _ => trivial
    exact absurd (hvalues name hname) (Derived.entry_error.1 hf).1
  refine safe_bind (steady_column hm name) hcolumn fun xs _ => ?_
  have hreduce : Safe m s (Session.derive (Traced.mapError .eval
      (Eval.numeric (p.combiner.apply xs)))) fun _ => True := by
    refine safe_derive (fun f hf => ?_) fun _ _ => trivial
    obtain ⟨failure, heval, rfl⟩ := Traced.result_mapError_error.1 hf
    obtain ⟨fault, rfl⟩ := Eval.numeric_error heval
    exact .numerical (.numeric fault)
  exact safe_bind (steady_derive _) hreduce fun _ _ => safe_pure trivial

end Safe

/-- The node that a read is about, which has to be known. -/
def Read.node? : Read → Option String
  | .values id | .edges id | .tags id | .drawing id | .drawNode id => some id
  | .rootValues | .allEdges | .summary => none

/-- **A read of a known node is safe.** -/
theorem safe_read (hm : m.Accepted) (r : Read) (hr : ∀ id, r.node? = some id → (m.node? id).isSome) :
    Safe m s (m.read r) fun _ => True := by
  have hnode : ∀ {id}, r.node? = some id → ∃ n, m.node? id = some n := fun h =>
    Option.isSome_iff_exists.1 (hr _ h)
  cases r with
  | values id =>
    obtain ⟨n, hn⟩ := hnode rfl
    refine safe_bind (steady_find id) (safe_find hn) fun _ _ μ hμ => ?_
    exact ⟨(safe_values hm (Model.known_of_node? hn) μ hμ).1, fun _ _ => trivial⟩
  | rootValues => exact fun μ hμ => ⟨(safe_rootValues hm μ hμ).1, fun _ _ => trivial⟩
  | edges id =>
    obtain ⟨n, hn⟩ := hnode rfl
    exact safe_bind (steady_find id) (safe_find hn) fun _ _ => safe_edges hm (Model.known_of_node? hn)
  | allEdges =>
    refine safe_bind (steady_mapM fun id _ => ⟨_, fun _ hμ => yields_edges hμ id⟩)
      (safe_mapM (fun id _ => ⟨_, fun _ hμ => yields_edges hμ id⟩) fun id hid => ?_) fun _ _ =>
        safe_pure trivial
    exact safe_edges hm (Or.inr hid)
  | tags id =>
    obtain ⟨n, hn⟩ := hnode rfl
    exact safe_allTags hm hn
  | drawing id =>
    obtain ⟨n, hn⟩ := hnode rfl
    exact safe_bind (steady_find id) (safe_find hn) fun _ _ => safe_drawing hm (Model.known_of_node? hn)
  | drawNode id =>
    obtain ⟨n, hn⟩ := hnode rfl
    exact safe_draw hm hn
  | summary => exact safe_summary hm

/-- A read of a node that is not known fails for that. -/
theorem read_unknown {r : Read} (hr : r.node? = some id) (hid : m.node? id = none) :
    (m.read r μ).result = .error (.unknownNode id) := by
  have hfind : (m.find id μ).result = .error (.unknownNode id) := by
    rw [Model.find, hid]
    rfl
  cases r <;> cases hr <;> exact (Session.bind_error hfind).1

/-- A read of values that succeeds at the end of a run is one of a known node. -/
theorem read_values_ok (hm : m.Accepted) {ops : List Operation} {v : Table Float}
    (h : (m.read (.values id) (m.run ops {})).result = .ok v) :
    (id = rootId ∨ id ∈ m.definition.nodes) ∧
      m.valuesOf (m.scenario (m.active ops)) id = .ok v := by
  cases hnode : m.node? id with
  | none =>
    rw [read_unknown (r := .values id) rfl hnode] at h
    cases h
  | some n => exact ⟨Model.known_of_node? hnode, (read_values_run hm ops hnode).symm.trans h⟩

/-- **Everything that was checked is there at run time.** Under every scenario and after any run,
evaluations other than those of overrides miss nothing; and a read fails only if the node is not
known, an array is empty, arithmetic fails, or an override of the scenario fails. No lookup of the
engine misses its entry. -/
theorem reads_find_everything {d : Definition} (h : d.accept = .ok m) (ops : List Operation) :
    let μ := m.run ops {}
    (∀ e σ, m.Evaluates μ e σ → ∀ what, (e.evaluate σ).result ≠ .error (.missing what)) ∧
    ∀ r f, (m.read r μ).result = .error f →
      (∃ id, r.node? = some id ∧ m.node? id = none ∧ f = .unknownNode id) ∨
        m.Tolerable (m.active ops) f := by
  intro μ
  obtain ⟨hm, -⟩ := accepted_of_accept h
  have hμ : MemoOK m (m.active ops) μ := memoOK_run hm ops
  refine ⟨fun e σ he => evaluates_finds hm hμ he, fun r f hf => ?_⟩
  by_cases hknown : ∀ id, r.node? = some id → (m.node? id).isSome
  · exact Or.inr ((safe_read hm r hknown μ hμ).1 f hf)
  · push Not at hknown
    obtain ⟨id, hid, hnone⟩ := hknown
    have hnone : m.node? id = none := by simpa using hnone
    rw [read_unknown hid hnone] at hf
    exact Or.inl ⟨id, hid, hnone, (Except.error.inj hf).symm⟩

/-- The river in a drought. -/
theorem reads_find_everything_river : ∃ m, river.accept = .ok m ∧
    let μ := m.run [.enter "drought", .read (.values "mouth")] {}
    (∀ e σ, m.Evaluates μ e σ → ∀ what, (e.evaluate σ).result ≠ .error (.missing what)) ∧
    ∀ r f, (m.read r μ).result = .error f →
      (∃ id, r.node? = some id ∧ m.node? id = none ∧ f = .unknownNode id) ∨
        m.Tolerable (m.active [.enter "drought", .read (.values "mouth")]) f := by
  have h : river.accept = .ok _ := rfl
  exact ⟨_, h, reads_find_everything h _⟩

end ValuedGraph
