import ValuedGraph.Proofs.Model.Places
import ValuedGraph.Proofs.Model.Runs

/-!
# Nothing is missing at run time

Whatever acceptance has checked is there when a model is read: every lookup of the engine finds
its entry, and every expression finds what it reads, save the overrides of scenarios, which may
ask for results that are still to come.

* `Model.Accepted.numerical_of_rootOf`, `valueOf_error`, `outcome_error`, `numerical_of_drawnEdges`:
  **the failures of each computation.**
* `Model.Accepted.reading_error`: a read of values fails over numbers, or with an override of the
  node or of one above it.
* `Model.Accepted.tolerable_of_valuesOf`, `tolerable_of_drawingOf`: the failures of reads, without
  a memo.
-/

namespace ValuedGraph

namespace Model

variable {m : Model} {s id name : String} {i : Inputs} {p : Property} {t : TagMembership}
  {results : Table Float} {f : ReadFailure}

/-- An override of a property fails like its reduction. -/
theorem overridden_error {e : Expr} {σ : Surroundings} (hname : name ∈ m.definition.properties)
    (h : (m.overridden name e σ).result = .error f) : ∃ p : Property,
      (Derived.reduce p.combiner e { σ with tagConstants := m.tagConstants }).result = .error f := by
  unfold overridden at h
  split at h
  · cases h
  · rcases Traced.result_bind_error.1 h with hp | ⟨p, -, hp⟩
    · exact absurd hname (Derived.entry_error.1 hp).1
    · exact ⟨p, hp⟩

namespace Accepted

/-- **The values of the root** only fail over numbers: its overrides find what they read, since the
root has values from the start. -/
theorem numerical_of_rootOf (hm : m.Accepted) (h : m.rootOf (m.scenario s) = .error f) :
    f.Numerical := by
  obtain ⟨before, ⟨name, e⟩, after, values, hl, hbefore, hstep⟩ := Traced.result_foldlM_error h
  have hover : ((m.scenario s).overrides rootId).get? name = some e :=
    Table.get?_eq_some_iff.2 (by rw [hl]; simp)
  obtain ⟨hname, hvalid⟩ := hm.override_property hover
  -- an override adds no names, so at every step the root has values for all properties
  have hkeys : ∀ k, k ∈ values ↔ k ∈ m.definition.properties := fun k =>
    mem_foldlM_overrideRoot (fun e he => hm.rootOverride_property s e (by rw [hl]; simp [he]))
      (fun _ => hm.mem_given) hbefore
  rcases Traced.result_bind_error.1 hstep with hentry | ⟨base, -, hstep⟩
  · exact absurd ((hkeys name).2 hname) (Derived.entry_error.1 hentry).1
  rcases Traced.result_bind_error.1 hstep with hover | ⟨x, -, hpure⟩
  · obtain ⟨p, hreduce⟩ := overridden_error hname hover
    refine numerical_of_reduce (hvalid.finds ?_) hreduce
    exact plainSurroundings_meets (fun k hk => (hkeys k).2 hk) (fun k hk => (hkeys k).2 hk)
      fun _ => rfl
  · cases hpure

/-- **A value without overrides** only fails over numbers. -/
theorem numerical_of_baseValue (hm : m.Accepted) (hi : m.InputsOK i)
    (hp : m.definition.properties.get? name = some p) (hresults : ∀ k ∈ p.dependencies, k ∈ results)
    (h : (m.baseValue i name p t results).result = .error f) : f.Numerical := by
  have hname : name ∈ m.definition.properties := Table.mem_of_get? hp
  unfold baseValue at h
  simp only at h
  split at h
  · exact absurd ((hi.root name).2 hname) (Derived.entry_error.1 h).1
  · have htyped : ∀ e ∈ i.edges.filter fun e => e.type == name, e ∈ i.edges := fun e he =>
      (List.mem_filter.1 he).1
    rcases Traced.result_bind_error.1 h with hsur | ⟨σ, hsur, hreduce⟩
    · obtain ⟨σ, hσ⟩ := exists_surroundings p t results hi htyped
      rw [hσ] at hsur
      cases hsur
    · exact numerical_of_reduce (hm.value_finds hi hp htyped hresults hsur) hreduce

/-- **A value of a node** only fails over numbers, or because its override fails. -/
theorem valueOf_error (hm : m.Accepted) (hin : m.inputsOf (m.scenario s) id = .ok i)
    (hi : m.InputsOK i) {before after : List String} (hl : m.propertyOrder = before ++ name :: after)
    (hresults : (before.foldlM (m.addValue i) ∅).result = .ok results)
    (h : (m.valueOf i results name).result = .error f) : f.Numerical ∨
      ∃ e failure, m.OverrideFails s id name e failure ∧ f = .eval failure := by
  have hname : name ∈ m.definition.properties := (hm.propertyOrder_ok.2.1 name).1 (by rw [hl]; simp)
  unfold valueOf at h
  split at h
  · cases h
  rename_i hnode
  rcases Traced.result_bind_error.1 h with hp | ⟨p, hp, h⟩
  · exact absurd hname (Derived.entry_error.1 hp).1
  rcases Traced.result_bind_error.1 h with ht | ⟨t, ht, h⟩
  · exact absurd ((hi.tags name).2 hname) (Derived.entry_error.1 ht).1
  have hp := Derived.entry_ok.1 hp
  have ht := Derived.entry_ok.1 ht
  -- the dependencies of the property stand in front of it
  have hdep : ∀ k ∈ p.dependencies, k ∈ results := fun k hk =>
    (mem_valuesSoFar hresults).2 (hm.propertyOrder_ok.2.2 before name after hl p hp k hk)
  split at h
  · exact Or.inl (hm.numerical_of_baseValue hi hp hdep h)
  rename_i e hover
  have hreduce : ∀ input, (e.readsInput = true →
        ∃ b, (m.baseValue i name p t results).result = .ok b ∧ input = some [b]) →
      (e.readsInput = false → input = none) →
      (m.overridden name e { root := i.root, results, input, tags := t }).result = .error f →
      f.Numerical ∨ ∃ e failure, m.OverrideFails s id name e failure ∧ f = .eval failure := by
    intro input hinput hnone hov
    obtain ⟨p', hred⟩ := overridden_error hname hov
    rcases Derived.reduce_error hred with ⟨failure, hfail, rfl⟩ | ⟨fault, rfl⟩
    · exact Or.inr ⟨e, failure, .fails hin hnode hover hp ht hl hresults hinput hnone hfail, rfl⟩
    · exact Or.inl (.numeric fault)
  split at h
  · rename_i hreads
    rcases Traced.result_bind_error.1 h with hbase | ⟨b, hb, h⟩
    · exact Or.inl (hm.numerical_of_baseValue hi hp hdep hbase)
    · exact hreduce (some [b]) (fun _ => ⟨b, hb, rfl⟩) (fun hn => by simp [hreads] at hn) h
  · rename_i hreads
    exact hreduce none (fun hr => absurd hr hreads) (fun _ => rfl) h

/-- The inputs of a node whose refs have outcomes. -/
theorem inputsOK_of_outcomes (hm : m.Accepted) (hi : m.inputsOf (m.scenario s) id = .ok i)
    (hrefs : ∀ r ∈ m.refs id, ∃ u, (m.valuation (m.scenario s)).outcome r = .ok u) :
    m.InputsOK i := by
  refine hm.inputsOK hi fun r hr => ?_
  obtain ⟨u, hu⟩ := hrefs r hr
  exact ⟨u, (Propagation.get?_settled_ref hm hr).2 hu, fun k hk => (hm.mem_outcome hu).2 hk⟩

/-- The inputs of a node can always be read, unless the values of the root cannot. -/
theorem numerical_of_inputsOf (hm : m.Accepted) (hid : id ∈ m.definition.nodes)
    (h : m.inputsOf (m.scenario s) id = .error f) : f.Numerical := by
  obtain ⟨n, hn⟩ := Derived.exists_entry hid
  obtain ⟨edges, hedges⟩ := hm.exists_edgesOf (Or.inr hid)
  obtain ⟨tags, htags⟩ := hm.exists_tagsOf (Or.inr hid)
  have hnode : (m.node id).result = .ok n := hn
  unfold inputsOf inputsFrom at h
  cases hroot : m.rootOf (m.scenario s) with
  | error e =>
    obtain rfl : e = f := by simpa [hnode, hroot, Except.bind] using h
    exact hm.numerical_of_rootOf hroot
  | ok root => simp [hnode, hroot, hedges, htags, Except.bind] at h

/-- **The outcome of a node** only fails over numbers or because an override of the node fails, if
those of its refs do not fail. -/
theorem outcome_error (hm : m.Accepted) (hid : id ∈ m.definition.nodes)
    (hrefs : ∀ r ∈ m.refs id, ∃ u, (m.valuation (m.scenario s)).outcome r = .ok u)
    (h : (m.valuation (m.scenario s)).outcome id = .error f) : f.Numerical ∨
      ∃ name e failure, m.OverrideFails s id name e failure ∧ f = .eval failure := by
  rw [outcome_valuation] at h
  cases hi : m.inputsOf (m.scenario s) id with
  | error e =>
    obtain rfl : e = f := by simpa [hi, Except.bind] using h
    exact Or.inl (hm.numerical_of_inputsOf hid hi)
  | ok i =>
    simp only [hi, Except.bind] at h
    obtain ⟨before, name, after, results, hl, hres, hstep⟩ := Traced.result_foldlM_error h
    rcases Traced.result_bind_error.1 hstep with hvalue | ⟨x, -, hpure⟩
    · exact (hm.valueOf_error hi (hm.inputsOK_of_outcomes hi hrefs) hl hres hvalue).imp_right
        fun hfails => ⟨name, hfails⟩
    · cases hpure

/-- **Reading the values of a node** only fails over numbers, or because an override of the node or
of a node above it fails. -/
theorem reading_error (hm : m.Accepted) (hid : id ∈ m.definition.nodes)
    (h : (m.valuation (m.scenario s)).reading id = .error f) : f.Numerical ∨
      ∃ k ∈ m.lineage id, ∃ name e failure, m.OverrideFails s k name e failure ∧
        f = .eval failure := by
  obtain ⟨k, hk, hout, hrefs⟩ := Propagation.reading_error hm h
  have hmem : k ∈ m.definition.nodes := by
    rcases List.mem_append.1 hk with hk | hk
    · obtain ⟨-, hroot⟩ := hm.mem_upstream.1 hk
      exact ((hm.nodeOrder_ok.2.1 k).1 (List.mem_filter.1 hk).1).resolve_left hroot
    · rwa [List.mem_singleton.1 hk]
  exact (hm.outcome_error hmem hrefs hout).imp_right fun hfails => ⟨k, hk, hfails⟩

theorem tolerable_of_reading (hm : m.Accepted) (hid : id ∈ m.definition.nodes)
    (h : (m.valuation (m.scenario s)).reading id = .error f) : m.Tolerable s f := by
  rcases hm.reading_error hid h with hnum | ⟨k, -, name, e, failure, hfails, rfl⟩
  · exact .numerical hnum
  · exact .override hfails

theorem tolerable_of_valuesOf (hm : m.Accepted) (hid : id = rootId ∨ id ∈ m.definition.nodes)
    (h : m.valuesOf (m.scenario s) id = .error f) : m.Tolerable s f := by
  unfold valuesOf at h
  split at h
  · exact .numerical (hm.numerical_of_rootOf h)
  · rename_i hroot
    exact hm.tolerable_of_reading (hid.resolve_left hroot) h

theorem mem_valuesOf (hm : m.Accepted) {v : Table Float}
    (h : m.valuesOf (m.scenario s) id = .ok v) {k : String} : k ∈ v ↔ k ∈ m.definition.properties := by
  unfold valuesOf at h
  split at h
  · exact hm.mem_rootOf h
  · exact hm.mem_outcome (Propagation.reading_ok.1 h).1

/-- A display setting is evaluated, or its absence stands for a number. -/
theorem settingArray_finds {display : Table Expr} {σ : Surroundings}
    (h : ∀ key e, (key, e) ∈ display.entries → (e.evaluate σ).Finds) (key : String) (absent : Float) :
    (settingArray display σ key absent).Finds := by
  unfold settingArray
  cases hget : display.get? key with
  | none => exact Eval.finds_pure _
  | some e => exact h key e (Table.get?_eq_some_iff.1 hget)

theorem settingNumber_finds {display : Table Expr} {σ : Surroundings}
    (h : ∀ key e, (key, e) ∈ display.entries → (e.evaluate σ).Finds) (key : String) (absent : Float) :
    (settingNumber display σ key absent).Finds :=
  Eval.finds_bind (settingArray_finds h key absent) fun _ _ => Eval.finds_pure _

/-- The entries of a group miss nothing if its display settings do not. -/
theorem entries_finds {g : EdgeGroup}
    (h : ∀ key e, (key, e) ∈ g.display.entries → (e.evaluate g.surroundings).Finds) :
    g.entries.Finds := by
  unfold EdgeGroup.entries
  refine Eval.finds_bind (settingArray_finds h _ _) fun _ _ => ?_
  refine Eval.finds_bind (settingArray_finds h _ _) fun _ _ => ?_
  refine Eval.finds_bind (settingArray_finds h _ _) fun _ _ => ?_
  exact Eval.finds_bind (settingArray_finds h _ _) fun _ _ => Eval.finds_pure _

/-- **The edges drawn to one ref** miss nothing if the display settings of groups and of merged
edges do not. -/
theorem drawToRef_finds {source ref : String} {groups : List EdgeGroup} {display : Table Expr}
    {σ : Surroundings} (hgroups : ∀ g ∈ groups, ∀ key e, (key, e) ∈ g.display.entries →
      (e.evaluate g.surroundings).Finds)
    (hmerged : ∀ key e, (key, e) ∈ display.entries → ∀ input : List Float,
      (e.evaluate { σ with input := some input }).Finds) :
    (drawToRef source ref groups display σ).Finds := by
  have hmerge : ∀ entries, (mergeEntries display σ entries).Finds := by
    intro entries
    unfold mergeEntries
    refine Eval.finds_bind (settingNumber_finds (fun key e he => hmerged key e he _) _ _) fun _ _ => ?_
    refine Eval.finds_bind (settingNumber_finds (fun key e he => hmerged key e he _) _ _) fun _ _ => ?_
    refine Eval.finds_bind (settingNumber_finds (fun key e he => hmerged key e he _) _ _) fun _ _ => ?_
    exact Eval.finds_pure _
  unfold drawToRef
  refine Eval.finds_bind (Eval.finds_mapM fun g hg => entries_finds (hgroups g hg)) fun _ _ => ?_
  dsimp only
  split
  · exact Eval.finds_bind (Eval.finds_pure _) fun _ _ => Eval.finds_pure _
  · refine Eval.finds_bind (hmerge _) fun _ _ => ?_
    exact Eval.finds_bind (Eval.finds_pure _) fun _ _ => Eval.finds_pure _

/-- The group of some edges of one type can be formed, and misses nothing when it is drawn. -/
theorem edgeGroup_ok (hm : m.Accepted) (hi : m.InputsOK i)
    (hresults : ∀ k ∈ m.definition.properties, k ∈ results) {type : String} {typed : List ExpandedEdge}
    (htyped : ∀ e ∈ typed, e ∈ i.edges) (htype : type ∈ m.definition.properties) :
    (∃ g, (m.edgeGroup i results type typed).result = .ok g) ∧
      ∀ g, (m.edgeGroup i results type typed).result = .ok g →
        ∀ key e, (key, e) ∈ g.display.entries → (e.evaluate g.surroundings).Finds := by
  constructor
  · obtain ⟨p, hp⟩ := Derived.exists_entry htype
    obtain ⟨t, ht⟩ := Derived.exists_entry ((hi.tags type).2 htype)
    obtain ⟨σ, hσ⟩ := exists_surroundings p t results hi htyped
    exact ⟨_, Traced.result_bind_ok.2 ⟨p, hp, Traced.result_bind_ok.2 ⟨t, ht,
      Traced.result_bind_ok.2 ⟨σ, hσ, rfl⟩⟩⟩⟩
  · intro g hg key e he
    obtain ⟨p, hp, hg⟩ := Traced.result_bind_ok.1 hg
    obtain ⟨t, -, hg⟩ := Traced.result_bind_ok.1 hg
    obtain ⟨σ, hσ, hpure⟩ := Traced.result_bind_ok.1 hg
    obtain rfl := Except.ok.inj hpure
    exact hm.edgeDisplay_finds hi (Derived.entry_ok.1 hp) htyped hresults hσ he

/-- A group of a node's edges has edges of one type, which is a property. -/
theorem mem_groups (hi : m.InputsOK i) {ref type : String} {edges typed : List ExpandedEdge}
    (href : (ref, edges) ∈ (groupBy ExpandedEdge.ref i.edges).entries)
    (htype : (type, typed) ∈ (groupBy ExpandedEdge.type edges).entries) :
    (∀ e ∈ typed, e ∈ i.edges) ∧ type ∈ m.definition.properties := by
  have hmem : ∀ e ∈ typed, e ∈ i.edges := fun e he =>
    (mem_of_mem_groupBy href (mem_of_mem_groupBy htype he).1).1
  obtain ⟨e, he⟩ := List.exists_mem_of_ne_nil _ (mem_groupBy htype).2
  refine ⟨hmem, ?_⟩
  rw [← (mem_of_mem_groupBy htype he).2]
  exact hi.edges e (hmem e he)

/-- **Drawing the edges of a node** only fails over numbers. -/
theorem numerical_of_drawnEdges (hm : m.Accepted) (hi : m.InputsOK i)
    (hresults : ∀ k ∈ m.definition.properties, k ∈ results)
    (h : (m.drawnEdges id i results).result = .error f) : f.Numerical := by
  have hroot : ∀ k ∈ m.definition.properties, k ∈ i.root := fun k hk => (hi.root k).2 hk
  rcases Traced.result_bind_error.1 h with hgroups | ⟨groups, hgroups, h⟩
  · -- every group can be formed
    obtain ⟨⟨ref, edges⟩, href, hfail⟩ := Traced.mem_of_mapM_error hgroups
    rcases Traced.result_bind_error.1 hfail with hfail | ⟨_, -, hpure⟩
    · obtain ⟨⟨type, typed⟩, htype, hfail⟩ := Traced.mem_of_mapM_error hfail
      obtain ⟨htyped, hprop⟩ := mem_groups hi href htype
      obtain ⟨g, hg⟩ := (hm.edgeGroup_ok hi hresults htyped hprop).1
      rw [hg] at hfail
      cases hfail
    · cases hpure
  · rcases Traced.result_bind_error.1 h with hdraw | ⟨_, -, hpure⟩
    · obtain ⟨⟨ref, group⟩, hmem, hfail⟩ := Traced.mem_of_mapM_error hdraw
      obtain ⟨failure, heval, rfl⟩ := Traced.result_mapError_error.1 hfail
      refine numerical_of_finds (drawToRef_finds ?_ ?_) heval
      · intro g hg
        obtain ⟨⟨ref', edges⟩, href, hgroup⟩ := Traced.mem_of_mapM_ok hgroups hmem
        obtain ⟨list, hlist, hpure⟩ := Traced.result_bind_ok.1 hgroup
        obtain ⟨rfl, rfl⟩ := Prod.mk.inj (Except.ok.inj hpure)
        obtain ⟨⟨type, typed⟩, htype, hok⟩ := Traced.mem_of_mapM_ok hlist hg
        obtain ⟨htyped, hprop⟩ := mem_groups hi href htype
        exact (hm.edgeGroup_ok hi hresults htyped hprop).2 g hok
      · exact fun key e he input => hm.mergedDisplay_finds hroot hresults he input
    · cases hpure

/-- **Reading the drawn edges of a node** only fails in ways that are tolerable. -/
theorem tolerable_of_drawingOf (hm : m.Accepted) (hid : id = rootId ∨ id ∈ m.definition.nodes)
    (h : m.drawingOf (m.scenario s) id = .error f) : m.Tolerable s f := by
  unfold drawingOf at h
  split at h
  · cases h
  rename_i hroot
  have hid := hid.resolve_left hroot
  cases hread : (m.valuation (m.scenario s)).reading id with
  | error e =>
    obtain rfl : e = f := by simpa [hread, Except.bind] using h
    exact hm.tolerable_of_reading hid hread
  | ok v =>
    cases hi : m.inputsOf (m.scenario s) id with
    | error e =>
      obtain rfl : e = f := by simpa [hread, hi, Except.bind] using h
      exact .numerical (hm.numerical_of_inputsOf hid hi)
    | ok i =>
      simp only [hread, hi, Except.bind] at h
      have hrefs : ∀ r ∈ m.refs id, ∃ u, (m.valuation (m.scenario s)).outcome r = .ok u := by
        intro r hr
        obtain ⟨u, hu⟩ := hm.reading_ref hread hr
        exact ⟨u, (Propagation.reading_ok.1 hu).1⟩
      refine .numerical
        (hm.numerical_of_drawnEdges (hm.inputsOK_of_outcomes hi hrefs) (fun k hk => ?_) h)
      exact (hm.mem_outcome (Propagation.reading_ok.1 hread).1).2 hk

end Accepted

end Model

end ValuedGraph
