import ValuedGraph.Proofs.Model.Tags

/-!
# The places of expressions

Every place where an expression is evaluated was checked with permissions of its own. The
surroundings that are built there meet them: a property finds the constants of its edges, the
values of refs and root, and the results of its dependencies; display settings find all results.

* `Model.InputsOK`: inputs of a node whose refs have values.
* `Model.surroundings_meets`: **in front of the edges of a type.**
* `Model.plainSurroundings_meets`: where no edge is in front.
* `ReadFailure.Numerical`, `Model.OverrideFails`: failures of numbers and of overrides.
* `Model.Tolerable`: **the failures that are left.**
-/

namespace ValuedGraph

/-- A reduction fails like its expression or by arithmetic. -/
theorem Derived.reduce_error {c : Combiner} {e : Expr} {σ : Surroundings}
    {f : ReadFailure} (h : (Derived.reduce c e σ).result = .error f) :
    (∃ failure, (e.evaluate σ).result = .error failure ∧ f = .eval failure) ∨
      ∃ fault, f = .eval (.numeric fault) := by
  unfold Derived.reduce at h
  obtain ⟨failure, hbind, rfl⟩ := Traced.result_mapError_error.1 h
  rcases Traced.result_bind_error.1 hbind with he | ⟨xs, -, hc⟩
  · exact Or.inl ⟨failure, he, rfl⟩
  · obtain ⟨fault, rfl⟩ := Eval.numeric_error hc
    exact Or.inr ⟨fault, rfl⟩

/-- **Failures of numbers:** an array is empty, or arithmetic fails. -/
inductive ReadFailure.Numerical : ReadFailure → Prop where
  | empty (operand : Operand) : Numerical (.eval (.empty operand))
  | numeric (fault : NumericFault) : Numerical (.eval (.numeric fault))

namespace Model

/-- **An override of a property of a node fails.** It is evaluated with the results of the
properties in front of its own; its input is the value that it replaces. -/
inductive OverrideFails (m : Model) (s id name : String) (e : Expr) : EvalFailure → Prop where
  | fails {i : Inputs} {before after : List String} {results : Table Float} {p : Property}
      {t : TagMembership} {input : Option (List Float)} {failure : EvalFailure}
      (hi : m.inputsOf (m.scenario s) id = .ok i)
      (hnode : i.node.values.get? name = none) (hover : i.overrides.get? name = some e)
      (hp : m.definition.properties.get? name = some p) (ht : i.tags.get? name = some t)
      (horder : m.propertyOrder = before ++ name :: after)
      (hresults : (before.foldlM (m.addValue i) ∅).result = .ok results)
      (hinput : e.readsInput = true →
        ∃ b, (m.baseValue i name p t results).result = .ok b ∧ input = some [b])
      (hnone : e.readsInput = false → input = none)
      (h : (e.evaluate
        { root := i.root, results, input, tags := t, tagConstants := m.tagConstants }).result =
          .error failure) : OverrideFails m s id name e failure

/-- **The failures that acceptance does not rule out:** empty arrays, arithmetic, and overrides of
nodes, which find the results of the properties in front of their own, whatever they refer to. -/
inductive Tolerable (m : Model) (s : String) : ReadFailure → Prop where
  | numerical {f : ReadFailure} (h : f.Numerical) : Tolerable m s f
  | override {id name : String} {e : Expr} {failure : EvalFailure}
      (h : m.OverrideFails s id name e failure) : Tolerable m s (.eval failure)

variable {m : Model} {s id name : String} {i : Inputs} {p : Property} {t : TagMembership}
  {results : Table Float} {f : ReadFailure}

/-- Evaluations that miss nothing only fail over numbers. -/
theorem numerical_of_finds {α : Type} {x : Eval α} (hx : x.Finds) {failure : EvalFailure}
    (h : x.result = .error failure) : (ReadFailure.eval failure).Numerical := by
  cases failure with
  | missing what => exact absurd h (hx what)
  | empty operand => exact .empty operand
  | numeric fault => exact .numeric fault

theorem numerical_of_reduce {c : Combiner} {e : Expr} {σ : Surroundings} (hfinds : (e.evaluate σ).Finds)
    (h : (Derived.reduce c e σ).result = .error f) : f.Numerical := by
  rcases Derived.reduce_error h with ⟨failure, he, rfl⟩ | ⟨fault, rfl⟩
  · exact numerical_of_finds hfinds he
  · exact .numeric fault

section Places

/-- **The inputs of a node whose refs have values.** -/
structure InputsOK (m : Model) (i : Inputs) : Prop where
  root : ∀ k, k ∈ i.root ↔ k ∈ m.definition.properties
  tags : ∀ k, k ∈ i.tags ↔ k ∈ m.definition.properties
  edges : ∀ e ∈ i.edges, e.type ∈ m.definition.properties
  refs : ∀ e ∈ i.edges, ∃ u, (i.refValues e.ref).result = .ok u ∧
    ∀ k ∈ m.definition.properties, k ∈ u

/-- **The inputs that a node has** when its refs have values for all properties. -/
theorem Accepted.inputsOK (hm : m.Accepted) {known : Table (Table Float)}
    (hi : m.inputsFrom (m.scenario s) known id = .ok i)
    (hknown : ∀ r ∈ m.refs id, ∃ u, known.get? r = some u ∧ ∀ k ∈ m.definition.properties, k ∈ u) :
    m.InputsOK i := by
  obtain ⟨hnode, -, hroot, hedges, htags, rfl⟩ := inputsFrom_ok.1 hi
  have hid : id ∈ m.definition.nodes := Table.mem_of_get? hnode
  have hne : id ≠ rootId := fun he => hm.root_not_mem (he ▸ hid)
  refine ⟨fun k => hm.mem_rootOf hroot, mem_tagsOf htags, ?_, ?_⟩
  · have hexpanded := hedges
    rw [edgesOf, if_neg hne] at hexpanded
    exact fun e he => hm.type_of_mem_expandedEdges hexpanded he
  · intro e he
    by_cases href : e.ref = rootId
    · refine ⟨i.root, by simp [Inputs.refValues, href], fun k hk => ?_⟩
      exact (hm.mem_rootOf hroot).2 hk
    · obtain ⟨u, hu, hkeys⟩ := hknown e.ref (mem_refs_of_edgesOf hedges he href)
      exact ⟨u, by rw [Inputs.refValues, if_neg href]; exact Derived.entry_ok.2 hu, hkeys⟩

/-- The constants of an edge and whether it is implied are there. -/
theorem mem_constantsOver {e : ExpandedEdge} {defaults : Table Float} {k : String}
    (hk : k ∈ defaults ∨ k = impliedConstant) : k ∈ e.constantsOver defaults := by
  unfold ExpandedEdge.constantsOver
  rw [Table.mem_insert, Table.mem_overlay]
  rcases hk with hk | rfl
  · exact Or.inr (Or.inl hk)
  · exact Or.inl rfl

theorem mem_tagConstants {k : String} : k ∈ m.tagConstants ↔ k ∈ m.definition.tags := by
  rw [Table.mem_iff, tagConstants, Table.keys_map, Table.mem_iff]

/-- The surroundings of some edges of a node can be built. -/
theorem exists_surroundings (p : Property) (t : TagMembership) (results : Table Float)
    {typed : List ExpandedEdge} (hi : m.InputsOK i)
    (htyped : ∀ e ∈ typed, e ∈ i.edges) : ∃ σ, (m.surroundings i p typed t results).result = .ok σ := by
  obtain ⟨refs, hrefs⟩ := Traced.exists_mapM_ok (l := typed) (f := fun e => i.refValues e.ref)
    fun e he => by
      obtain ⟨u, hu, -⟩ := hi.refs e (htyped e he)
      exact ⟨u, hu⟩
  exact ⟨_, Traced.result_bind_ok.2 ⟨refs, hrefs, rfl⟩⟩

/-- **In front of the edges of a type,** the surroundings meet any permissions to read the
constants of the type, all properties of refs and root, and those results that are there. -/
theorem surroundings_meets {typed : List ExpandedEdge} {σ : Surroundings} {perm : Permissions}
    (hi : m.InputsOK i) (htyped : ∀ e ∈ typed, e ∈ i.edges)
    (hproperties : perm.properties = m.definition.properties.keys)
    (hconstants : perm.constants = p.constants.keys) (htags : perm.tags = m.definition.tags.keys)
    (hinput : Capability.input ∈ perm.disallowed)
    (hresults : ∀ k ∈ perm.dependencies.getD perm.properties, k ∈ results)
    (h : (m.surroundings i p typed t results).result = .ok σ) : σ.Meets perm := by
  obtain ⟨refs, hrefs, hpure⟩ := Traced.result_bind_ok.1 h
  obtain rfl := Except.ok.inj hpure
  refine ⟨?_, ?_, ?_, hresults, ?_, fun hn => absurd hinput hn⟩
  · intro table htable k hk
    obtain ⟨e, -, rfl⟩ := List.mem_map.1 htable
    rw [hconstants] at hk
    exact mem_constantsOver hk
  · intro u hu k hk
    obtain ⟨e, he, hue⟩ := Traced.mem_of_mapM_ok hrefs hu
    obtain ⟨u', hu', hkeys⟩ := hi.refs e (htyped e he)
    obtain rfl := Except.ok.inj (hue.symm.trans hu')
    rw [hproperties] at hk
    exact hkeys k hk
  · intro k hk
    rw [hproperties] at hk
    exact (hi.root k).2 hk
  · intro k hk
    rw [htags] at hk
    exact mem_tagConstants.2 hk

/-- **Where no edge is in front,** the surroundings meet any permissions to read all values of
root and node. -/
theorem plainSurroundings_meets {root results : Table Float} {input : Option (List Float)}
    {owner : String} {lacks : List Capability}
    (hroot : ∀ k ∈ m.definition.properties, k ∈ root)
    (hresults : ∀ k ∈ m.definition.properties, k ∈ results)
    (hinput : Capability.input ∉ lacks → input.isSome) :
    ({ root, results, input, tags := t, tagConstants := m.tagConstants } : Surroundings).Meets
      (m.definition.permissions owner lacks) :=
  ⟨by simp, by simp, hroot, hresults, fun _ hk => mem_tagConstants.2 hk, hinput⟩

namespace Accepted

/-- **The value of a property** finds all that it reads. -/
theorem value_finds (hm : m.Accepted) (hi : m.InputsOK i)
    (hp : m.definition.properties.get? name = some p) {typed : List ExpandedEdge}
    (htyped : ∀ e ∈ typed, e ∈ i.edges) (hresults : ∀ k ∈ p.dependencies, k ∈ results)
    {σ : Surroundings} (h : (m.surroundings i p typed t results).result = .ok σ) :
    (p.value.evaluate σ).Finds := by
  refine (hm.properties name p hp).value.finds ?_
  exact surroundings_meets hi htyped rfl rfl rfl (by simp [Definition.valuePermissions,
    Definition.permissions, valueLacks]) hresults h

/-- **The display settings of the edges of a type** find all that they read. -/
theorem edgeDisplay_finds (hm : m.Accepted) (hi : m.InputsOK i)
    (hp : m.definition.properties.get? name = some p) {typed : List ExpandedEdge}
    (htyped : ∀ e ∈ typed, e ∈ i.edges) (hresults : ∀ k ∈ m.definition.properties, k ∈ results)
    {σ : Surroundings} (h : (m.surroundings i p typed t results).result = .ok σ) {key : String}
    {e : Expr} (he : (key, e) ∈ (m.definition.edgeDisplay p).entries) : (e.evaluate σ).Finds := by
  refine ((hm.properties name p hp).display key e he).finds ?_
  exact surroundings_meets hi htyped rfl rfl rfl (by simp [Definition.edgeDisplayPermissions,
    Definition.permissions, edgeDisplayLacks]) hresults h

/-- **The display settings of edges drawn as one** find all that they read. -/
theorem mergedDisplay_finds (hm : m.Accepted) {root : Table Float}
    (hroot : ∀ k ∈ m.definition.properties, k ∈ root)
    (hresults : ∀ k ∈ m.definition.properties, k ∈ results) {key : String} {e : Expr}
    (he : (key, e) ∈ m.definition.display.edgeCombiner.entries) (input : List Float) :
    (e.evaluate { root, results, input := some input, tagConstants := m.tagConstants }).Finds :=
  (hm.mergedDisplay key e he).finds (plainSurroundings_meets hroot hresults fun _ => rfl)

/-- **The display settings of a node** find all that they read. -/
theorem nodeDisplay_finds (hm : m.Accepted) {n : Node}
    (hn : n.display = ∅ ∨ m.definition.nodes.get? id = some n) {root : Table Float}
    (hroot : ∀ k ∈ m.definition.properties, k ∈ root)
    (hresults : ∀ k ∈ m.definition.properties, k ∈ results) {key : String} {e : Expr}
    (he : (key, e) ∈ (m.definition.nodeDisplay n).entries) :
    (e.evaluate { root, results, tags := t, tagConstants := m.tagConstants }).Finds := by
  have hmeets : ∀ owner, ({ root, results, tags := t, tagConstants := m.tagConstants } :
      Surroundings).Meets (m.definition.permissions owner nodeDisplayLacks) := fun owner =>
    plainSurroundings_meets hroot hresults fun h => absurd (by simp [nodeDisplayLacks]) h
  have hget := Table.get?_eq_some_iff.2 he
  rw [Definition.nodeDisplay, Table.get?_overlay] at hget
  cases hown : n.display.get? key with
  | none =>
    rw [hown, Option.none_or] at hget
    exact (hm.nodeDisplay key e (Table.get?_eq_some_iff.1 hget)).finds (hmeets _)
  | some e' =>
    rw [hown, Option.some_or] at hget
    obtain rfl := Option.some.inj hget
    rcases hn with hempty | hn
    · rw [hempty] at hown
      cases hown
    · exact ((hm.nodes id n hn).display key e' (Table.get?_eq_some_iff.1 hown)).finds (hmeets _)

end Accepted

end Places

end Model

end ValuedGraph
