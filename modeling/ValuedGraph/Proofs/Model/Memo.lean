import ValuedGraph.Proofs.Model.Outcomes

/-!
# The memo of a session

Whatever a session has memoized is an outcome of the active scenario, and memoized tags and
values are closed under refs. So it does not matter what is memoized when a read begins: a read
gives its outcome and leaves such a memo behind, also where it fails half way through a chain
of ancestors.

* `MemoOK`: **the invariant of memos.**
* `Yields`: a session that keeps the invariant and has a given result.
* `Fills.ensure`: what has to be known above a node is computed, up to the first failure.
* `yields_rootValues`, `yields_edges`, `yields_tags`, `yields_values`, `yields_drawing`: **reads
  yield outcomes.**
-/

namespace ValuedGraph

variable {α β : Type} {m : Model} {s id : String} {μ ν : Memo}

/-- **A memo of outcomes** of a scenario. -/
structure MemoOK (m : Model) (s : String) (μ : Memo) : Prop where
  scenario : μ.scenario = s
  edges : ∀ id edges, μ.edges.get? id = some edges → m.edgesOf id = .ok edges
  tags : m.tagging.Sound μ.tags
  values : (m.valuation (m.scenario s)).Sound μ.values
  drawn : ∀ id drawn, μ.drawn.get? id = some drawn → m.drawingOf (m.scenario s) id = .ok drawn
  root : ∀ values, μ.root = some values → m.rootOf (m.scenario s) = .ok values
  computed : μ.computed = μ.values.keys

/-- What is known stays known, and what becomes known goes behind it. -/
structure Memo.Below (μ ν : Memo) : Prop where
  tagKeys : μ.tags.keys <+: ν.tags.keys
  valueKeys : μ.values.keys <+: ν.values.keys
  root : ∀ values, μ.root = some values → ν.root = some values

theorem Memo.Below.tags (h : μ.Below ν) : ∀ k ∈ μ.tags, k ∈ ν.tags := fun _ hk => h.tagKeys.subset hk

theorem Memo.Below.values (h : μ.Below ν) : ∀ k ∈ μ.values, k ∈ ν.values :=
  fun _ hk => h.valueKeys.subset hk

theorem Memo.Below.refl (μ : Memo) : μ.Below μ :=
  ⟨List.prefix_rfl, List.prefix_rfl, fun _ h => h⟩

theorem Memo.Below.trans {ξ : Memo} (h : μ.Below ν) (h' : ν.Below ξ) : μ.Below ξ where
  tagKeys := h.tagKeys.trans h'.tagKeys
  valueKeys := h.valueKeys.trans h'.valueKeys
  root values hroot := h'.root values (h.root values hroot)

/-- **A session that keeps the invariant** and has a given result, started on a memo. -/
structure Yields (m : Model) (s : String) (x : Session α) (μ : Memo) (r : Except ReadFailure α) :
    Prop where
  result : (x μ).result = r
  memo : MemoOK m s (x μ).memo
  below : μ.Below (x μ).memo

section Sequences

variable {x : Session α} {f : α → Session β} {r : Except ReadFailure α} {r' : Except ReadFailure β}

theorem yields_pure (hμ : MemoOK m s μ) (a : α) : Yields m s (pure a) μ (.ok a) :=
  ⟨rfl, hμ, Memo.Below.refl μ⟩

theorem yields_derive (hμ : MemoOK m s μ) (x : Derived α) :
    Yields m s (Session.derive x) μ x.result :=
  ⟨rfl, hμ, Memo.Below.refl μ⟩

theorem yields_fail (hμ : MemoOK m s μ) (e : ReadFailure) :
    Yields m s (Session.fail e : Session α) μ (.error e) :=
  ⟨rfl, hμ, Memo.Below.refl μ⟩

/-- **A sequence of sessions,** the result of which may refer to the memo after it. -/
theorem Yields.bind_memo (r' : Memo → Except ReadFailure β) (hx : Yields m s x μ r)
    (hok : ∀ a, r = .ok a → Yields m s (f a) (x μ).memo (r' (f a (x μ).memo).memo))
    (herror : ∀ e, r = .error e → r' (x μ).memo = .error e) :
    Yields m s (x >>= f) μ (r' ((x >>= f) μ).memo) := by
  cases hr : r with
  | ok a =>
    obtain ⟨hres, hmemo⟩ := Session.bind_ok (f := f) (hx.result.trans hr)
    have hf := hok a hr
    exact ⟨by rw [hres, hmemo, hf.result], hmemo ▸ hf.memo, hmemo ▸ hx.below.trans hf.below⟩
  | error e =>
    obtain ⟨hres, hmemo⟩ := Session.bind_error (f := f) (hx.result.trans hr)
    exact ⟨by rw [hres, hmemo, herror e hr], hmemo ▸ hx.memo, hmemo ▸ hx.below⟩

/-- **A sequence of sessions.** The second one is started on a memo that keeps the invariant. -/
theorem Yields.bind (hx : Yields m s x μ r)
    (hok : ∀ a, r = .ok a → ∀ ν, ν = (x μ).memo → MemoOK m s ν → μ.Below ν → Yields m s (f a) ν r')
    (herror : ∀ e, r = .error e → r' = .error e) : Yields m s (x >>= f) μ r' :=
  hx.bind_memo (fun _ => r') (fun a ha => hok a ha _ rfl hx.memo hx.below) herror

theorem yields_memo_bind {f : Memo → Session β} (h : Yields m s (f μ) μ r') :
    Yields m s (Session.memo >>= f) μ r' :=
  ⟨h.result, h.memo, h.below⟩

theorem yields_derive_bind {x : Derived α} (hμ : MemoOK m s μ)
    (hok : ∀ a, x.result = .ok a → Yields m s (f a) μ r')
    (herror : ∀ e, x.result = .error e → r' = .error e) :
    Yields m s (Session.derive x >>= f) μ r' :=
  (yields_derive hμ x).bind (fun a ha _ hν _ _ => hν ▸ hok a ha) herror

theorem yields_update_bind {f : Unit → Session β} {g : Memo → Memo} (hb : μ.Below (g μ))
    (h : Yields m s (f ()) (g μ) r') : Yields m s (Session.update g >>= f) μ r' :=
  ⟨h.result, h.memo, hb.trans h.below⟩

theorem yields_activeScenario (hμ : MemoOK m s μ) :
    Yields m s m.activeScenario μ (.ok (m.scenario s)) :=
  ⟨by rw [← hμ.scenario]; rfl, hμ, Memo.Below.refl μ⟩

end Sequences

/-- **The values of the root.** -/
theorem yields_rootValues (hμ : MemoOK m s μ) :
    Yields m s m.rootValues μ (m.rootOf (m.scenario s)) := by
  unfold Model.rootValues
  refine yields_memo_bind ?_
  cases hroot : μ.root with
  | some values =>
    simp only [hμ.root values hroot]
    exact yields_pure hμ values
  | none =>
    refine (yields_activeScenario hμ).bind ?_ fun e he => by cases he
    rintro σ hσ ν rfl hν -
    obtain rfl := Except.ok.inj hσ
    refine yields_derive_bind hν ?_ fun e he => he
    intro values hvalues
    rw [Model.rootOf, hvalues]
    refine yields_update_bind ⟨List.prefix_rfl, List.prefix_rfl, ?_⟩ (yields_pure ?_ values)
    · intro t ht
      exact absurd (hroot.symm.trans ht) (by simp)
    refine ⟨hμ.scenario, hμ.edges, hμ.tags, hμ.values, hμ.drawn, ?_, hμ.computed⟩
    intro t ht
    rw [← Option.some.inj ht]
    exact hvalues

/-- **The edges of a node.** -/
theorem yields_edges (hμ : MemoOK m s μ) (id : String) :
    Yields m s (m.edges id) μ (m.edgesOf id) := by
  unfold Model.edges
  refine yields_memo_bind ?_
  cases hedges : μ.edges.get? id with
  | some edges =>
    simp only [hμ.edges id edges hedges]
    exact yields_pure hμ edges
  | none =>
    simp only
    split
    · rename_i hid
      simp only [Model.edgesOf, hid, if_true]
      exact yields_pure hμ []
    · rename_i hid
      refine yields_derive_bind hμ ?_ fun e he => by rw [Model.edgesOf, if_neg hid, he]
      intro edges hres
      have hout : m.edgesOf id = .ok edges := by rw [Model.edgesOf, if_neg hid, hres]
      rw [hout]
      refine yields_update_bind ⟨List.prefix_rfl, List.prefix_rfl, fun _ h => h⟩ (yields_pure ?_ edges)
      exact ⟨hμ.scenario, Table.forall_get?_insert hμ.edges hout, hμ.tags, hμ.values, hμ.drawn,
        hμ.root, hμ.computed⟩

/-- **A session that leaves a part of the memo alone.** -/
def Session.Keeps {γ : Type} (part : Memo → γ) (x : Session α) : Prop :=
  ∀ μ, part (x μ).memo = part μ

section Keeps

variable {γ : Type} {part : Memo → γ} {x : Session α} {f : α → Session β}

theorem keeps_bind (hx : x.Keeps part) (hf : ∀ a, (f a).Keeps part) : (x >>= f).Keeps part := by
  intro μ
  cases hr : (x μ).result with
  | ok a => rw [(Session.bind_ok hr).2, hf, hx]
  | error e => rw [(Session.bind_error hr).2, hx]

theorem keeps_forM {l : List α} {f : α → Session PUnit} (hf : ∀ a, (f a).Keeps part) :
    (l.forM f).Keeps part := by
  induction l with
  | nil => exact fun _ => rfl
  | cons a l ih => exact keeps_bind (hf a) fun _ => ih

/-- Expanding the edges of a node only memoizes these. -/
theorem keeps_edges (hpart : ∀ μ edges, part { μ with edges } = part μ) (id : String) :
    (m.edges id).Keeps part := by
  refine keeps_bind (fun _ => rfl) fun memo => ?_
  split
  · exact fun _ => rfl
  · split
    · exact fun _ => rfl
    · exact keeps_bind (fun _ => rfl) fun _ => keeps_bind (fun _ => hpart _ _) fun _ _ => rfl

/-- Reading the tags of a node leaves all values alone. -/
theorem keeps_tags (id : String) : (m.tags id).Keeps Memo.values := by
  have hcompute : ∀ k, (m.computeTags k).Keeps Memo.values := fun k =>
    keeps_bind (keeps_edges (fun _ _ => rfl) k) fun _ => keeps_bind (fun _ => rfl) fun _ =>
      keeps_bind (fun _ => rfl) fun _ _ => rfl
  unfold Model.tags
  split
  · exact fun _ => rfl
  · refine keeps_bind (keeps_bind (fun _ => rfl) fun memo => ?_) fun _ =>
      keeps_bind (fun _ => rfl) fun _ _ => rfl
    split
    · exact keeps_forM hcompute
    · exact fun _ => rfl

/-- Collecting the inputs of a node leaves all values alone. -/
theorem keeps_inputs (id : String) : (m.inputs id).Keeps Memo.values := by
  have hroot : m.rootValues.Keeps Memo.values := by
    refine keeps_bind (fun _ => rfl) fun memo => ?_
    split
    · exact fun _ => rfl
    · exact keeps_bind (fun _ => rfl) fun _ => keeps_bind (fun _ => rfl) fun _ =>
        keeps_bind (fun _ => rfl) fun _ _ => rfl
  exact keeps_bind (fun _ => rfl) fun _ => keeps_bind (fun _ => rfl) fun _ =>
    keeps_bind hroot fun _ => keeps_bind (keeps_edges (fun _ _ => rfl) id) fun _ =>
      keeps_bind (keeps_tags id) fun _ _ => rfl

end Keeps

/-- **How a part of the memo is filled** with the outcomes of a propagation, node by node. -/
structure Fills (m : Model) (s : String) (part : Memo → Table β) (P : Propagation m β)
    (compute : String → Session Unit) : Prop where
  sound : ∀ {μ}, MemoOK m s μ → P.Sound (part μ)
  below : ∀ {μ ν}, μ.Below ν → ∀ k ∈ part μ, k ∈ part ν
  yields : ∀ {μ k}, MemoOK m s μ → k ∉ part μ → (∀ r ∈ m.refs k, r ∈ part μ) →
    Yields m s (compute k) μ ((P.outcome k).map fun _ => ())
  mem : ∀ {μ k}, (compute k μ).result = .ok () →
    ∀ j, j ∈ part (compute k μ).memo ↔ j = k ∨ j ∈ part μ

namespace Fills

variable {part : Memo → Table β} {P : Propagation m β} {compute : String → Session Unit}

/-- The refs of every member of a list are known or stand in front of it. -/
def Ready (m : Model) (known : Table β) (l : List String) : Prop :=
  ∀ before k after, l = before ++ k :: after → ∀ r ∈ m.refs k, r ∈ known ∨ r ∈ before

/-- Once the first member of a list is known, the refs of the others still are known or in
front. -/
theorem Ready.tail {t u : Table β} {k : String} {l : List String} (h : Ready m t (k :: l))
    (htu : ∀ r ∈ t, r ∈ u) (hk : k ∈ u) : Ready m u l := by
  intro before j after hl r hr
  rcases h (k :: before) j after (by rw [hl]; rfl) r hr with hm | hm
  · exact Or.inl (htu r hm)
  · rcases List.mem_cons.1 hm with rfl | hm
    · exact Or.inl hk
    · exact Or.inr hm

/-- **Computing the unknown nodes of a list** in which refs stand in front goes as far as the
first failure of the list, and leaves all nodes known if there is none. -/
theorem forM (h : Fills m s part P compute) (unknown : String → Bool) (l : List String) :
    ∀ {μ}, MemoOK m s μ → l.Nodup → (∀ k ∈ l, unknown k = true ↔ k ∉ part μ) →
      Ready m (part μ) l →
      Yields m s ((l.filter unknown).forM compute) μ (P.along l) ∧
        (P.along l = .ok () → ∀ k ∈ l, k ∈ part (((l.filter unknown).forM compute) μ).memo) := by
  induction l with
  | nil =>
    intro μ hμ _ _ _
    exact ⟨yields_pure hμ (), by simp⟩
  | cons k l ih =>
    intro μ hμ hnd hunknown hready
    obtain ⟨hkl, hnd⟩ := List.nodup_cons.1 hnd
    cases hu : unknown k with
    | false =>
      -- a known node is passed over, and has an outcome
      have hk : k ∈ part μ := by
        by_contra hk
        simp [(hunknown k (by simp)).2 hk] at hu
      obtain ⟨b, -, hout⟩ := (h.sound hμ).outcome_ok hk
      rw [List.filter_cons_of_neg (by simp [hu]), Propagation.along_cons_ok hout]
      obtain ⟨hy, hmem⟩ := ih hμ hnd (fun j hj => hunknown j (by simp [hj]))
        (hready.tail (fun _ hr => hr) hk)
      refine ⟨hy, fun hal j hj => ?_⟩
      rcases List.mem_cons.1 hj with rfl | hj
      · exact h.below hy.below j hk
      · exact hmem hal j hj
    | true =>
      -- nothing stands in front of the node, so its refs are known
      have hy := h.yields hμ ((hunknown k (by simp)).1 hu) fun r hr =>
        (hready [] k l rfl r hr).resolve_right (by simp)
      rw [List.filter_cons_of_pos hu]
      change Yields m s (compute k >>= fun _ => (l.filter unknown).forM compute) μ _ ∧
        (_ → ∀ j ∈ k :: l, j ∈ part ((compute k >>= fun _ => (l.filter unknown).forM compute) μ).memo)
      cases hout : P.outcome k with
      | error e =>
        rw [hout] at hy
        rw [Propagation.along_cons_error hout]
        refine ⟨hy.bind (fun a ha => by cases ha) fun e' he' => ?_, fun hal => by cases hal⟩
        obtain rfl := Except.error.inj he'
        rfl
      | ok b =>
        rw [hout] at hy
        have hmemo := h.mem hy.result
        have hk := (hmemo k).2 (Or.inl rfl)
        -- the others are as unknown as they were
        have hunknown : ∀ j ∈ l, unknown j = true ↔ j ∉ part (compute k μ).memo := by
          intro j hj
          have hjk : j ≠ k := fun heq => hkl (heq ▸ hj)
          rw [hmemo, hunknown j (by simp [hj])]
          simp [hjk]
        obtain ⟨hy', hmem⟩ := ih hy.memo hnd hunknown (hready.tail (h.below hy.below) hk)
        rw [Propagation.along_cons_ok hout, (Session.bind_ok hy.result).2]
        refine ⟨hy.bind (fun a _ ν hν _ _ => hν ▸ hy') (fun e he => by cases he), fun hal j hj => ?_⟩
        rcases List.mem_cons.1 hj with rfl | hj
        · exact h.below hy'.below j hk
        · exact hmem hal j hj

/-- What is known is not computed again. -/
theorem ensure_of_mem (hid : id ∈ part μ) :
    m.ensure (fun memo k => ((part memo).get? k).isSome) compute id μ =
      (pure () : Session Unit) μ := by
  have hknown := Table.get?_isSome_iff.2 hid
  simp only [Model.ensure, Bind.bind, Session.bind, Session.memo, hknown]
  rfl

/-- Otherwise, what is not known of the lineage of the node is computed. -/
theorem ensure_of_not_mem (hid : id ∉ part μ) :
    m.ensure (fun memo k => ((part memo).get? k).isSome) compute id μ =
      ((m.lineage id).filter fun k => !((part μ).get? k).isSome).forM compute μ := by
  have hunknown : ((part μ).get? id).isSome = false := by
    rw [Table.get?_eq_none_iff.2 hid]
    rfl
  have hpending : (m.lineage id).filter (fun k => !((part μ).get? k).isSome) =
      (m.nodeOrder.filter fun k =>
        (m.graph.ancestors id).contains k && k != rootId && !((part μ).get? k).isSome) ++ [id] := by
    rw [Model.lineage, Model.upstream, List.filter_append, List.filter_filter,
      List.filter_cons_of_pos (by simp [hunknown]), List.filter_nil]
    congr 1
    refine List.filter_congr fun k _ => ?_
    rw [Bool.and_comm]
  rw [hpending]
  simp only [Model.ensure, Bind.bind, Session.bind, Session.memo, hunknown]
  rfl

/-- **What has to be known above a node** is computed, up to the first failure of its lineage. -/
theorem ensure (h : Fills m s part P compute) (hm : m.Accepted) (hμ : MemoOK m s μ) (id : String) :
    let x := m.ensure (fun memo k => ((part memo).get? k).isSome) compute id
    Yields m s x μ (P.along (m.lineage id)) ∧
      (P.along (m.lineage id) = .ok () → id ∈ part (x μ).memo) := by
  intro x
  by_cases hid : id ∈ part μ
  · have hx : x μ = (pure () : Session Unit) μ := ensure_of_mem hid
    have hy := yields_pure hμ ()
    rw [(h.sound hμ).along_lineage hm hid, hx]
    exact ⟨⟨hx ▸ hy.result, hx ▸ hy.memo, hx ▸ hy.below⟩, fun _ => hid⟩
  · have hx : x μ = _ := ensure_of_not_mem hid
    obtain ⟨hy, hmem⟩ := h.forM (fun k => !((part μ).get? k).isSome) (m.lineage id) hμ
      hm.nodup_lineage (fun k _ => by simp [← Table.get?_isSome_iff])
      fun before k after hl r hr => Or.inr (hm.lineage_ordered hl r hr)
    exact ⟨⟨hx ▸ hy.result, hx ▸ hy.memo, hx ▸ hy.below⟩, fun hal =>
      hx ▸ hmem hal id (by simp [Model.lineage])⟩

/-- **Reading a part of the memo** gives what the propagation gives. -/
theorem reading (h : Fills m s part P compute) (hm : m.Accepted) (hμ : MemoOK m s μ) (id : String) :
    Yields m s (do
      m.ensure (fun memo k => ((part memo).get? k).isSome) compute id
      Session.derive (Derived.entry (part (← Session.memo)) id)) μ (P.reading id) := by
  obtain ⟨hy, hmem⟩ := h.ensure hm hμ id
  refine hy.bind (fun a ha ν hν hνok _ => yields_memo_bind ?_) fun e he => by
    simp [Propagation.reading, he, Except.bind]
  have hid : id ∈ part ν := hν ▸ hmem ha
  obtain ⟨b, hb, hout⟩ := (h.sound hνok).outcome_ok hid
  have hres : P.reading id = .ok b := by simp [Propagation.reading, ha, Except.bind, hout]
  have hentry := yields_derive hνok (Derived.entry (part ν) id)
  rwa [Derived.entry_ok.2 hb, ← hres] at hentry

end Fills

/-- The tags of a node are filled in from those of its refs. -/
theorem fills_tags (hm : m.Accepted) : Fills m s Memo.tags m.tagging m.computeTags where
  sound hμ := hμ.tags
  below hb := hb.tags
  yields := by
    intro μ k hμ hk hrefs
    unfold Model.computeTags
    have hkeeps : (m.edges k μ).memo.tags = μ.tags := keeps_edges (fun _ _ => rfl) k μ
    refine (yields_edges hμ k).bind ?_ fun e he => by
      simp [Propagation.outcome, Model.tagging, he, Except.bind, Except.map]
    rintro edges hedges ν rfl hν hb
    refine yields_memo_bind ?_
    -- the tags that are known by now give the outcome
    have hstep : (m.tagTable k edges (m.edges k μ).memo.tags).result = m.tagging.outcome k := by
      rw [← hν.tags.step_eq hm fun r hr => hb.tags r (hrefs r hr)]
      simp [Model.tagging, hedges, Except.bind]
    rw [← hstep]
    refine yields_derive_bind hν ?_ fun e he => by rw [he]; rfl
    intro table htable
    rw [htable]
    have hsound := hν.tags.insert (by rwa [hkeeps]) (fun r hr => hb.tags r (hrefs r hr))
      (hstep ▸ htable)
    refine ⟨rfl, ⟨hν.scenario, hν.edges, hsound, hν.values, hν.drawn, hν.root, hν.computed⟩, ?_⟩
    exact ⟨Table.keys_prefix_insert _ _ _, List.prefix_rfl, fun _ h => h⟩
  mem := by
    intro μ k h j
    have hkeeps : (m.edges k μ).memo.tags = μ.tags := keeps_edges (fun _ _ => rfl) k μ
    unfold Model.computeTags at h ⊢
    obtain ⟨edges, -, h, hmemo⟩ := Session.of_bind_ok h
    rw [hmemo]
    obtain ⟨_, -, h, hmemo⟩ := Session.of_bind_ok h
    rw [hmemo]
    obtain ⟨table, -, -, hmemo⟩ := Session.of_bind_ok h
    rw [hmemo, ← hkeeps]
    exact Table.mem_insert

/-- **The tags of a node.** -/
theorem yields_tags (hm : m.Accepted) (hμ : MemoOK m s μ) (id : String) :
    Yields m s (m.tags id) μ (m.tagsOf id) := by
  unfold Model.tags Model.tagsOf
  split
  · exact yields_pure hμ _
  · exact (fills_tags hm).reading hm hμ id

/-- **The inputs of a node** are taken from what is known by then. -/
theorem yields_inputs (hm : m.Accepted) (hμ : MemoOK m s μ) (id : String) :
    Yields m s (m.inputs id) μ (m.inputsFrom (m.scenario s) (m.inputs id μ).memo.values id) := by
  unfold Model.inputs
  let out : Memo → Except ReadFailure Model.Inputs := fun ν =>
    m.inputsFrom (m.scenario s) ν.values id
  refine (yields_derive hμ (m.node id)).bind_memo out (fun node hnode => ?_) fun e he => by
    simp [out, Model.inputsFrom, he, Except.bind]
  refine (yields_activeScenario hμ).bind_memo out (fun σ hσ => ?_) fun e he => by cases he
  obtain rfl := Except.ok.inj hσ
  have hroot := yields_rootValues hμ
  refine hroot.bind_memo out (fun root hrootof => ?_) fun e he => by
    simp [out, Model.inputsFrom, hnode, he, Except.bind]
  have hedges := yields_edges hroot.memo id
  refine hedges.bind_memo out (fun edges hedgesof => ?_) fun e he => by
    simp [out, Model.inputsFrom, hnode, hrootof, he, Except.bind]
  have htags := yields_tags hm hedges.memo id
  refine htags.bind_memo out (fun tags htagsof => ?_) fun e he => by
    simp [out, Model.inputsFrom, hnode, hrootof, hedgesof, he, Except.bind]
  refine ⟨?_, htags.memo, Memo.Below.refl _⟩
  simp only [out, Model.inputsFrom, hnode, hrootof, hedgesof, htagsof, Except.bind]
  rfl

/-- The inputs of a node whose refs are known give the outcome of the node. -/
theorem valueTable_of_inputs (hm : m.Accepted) (hμ : MemoOK m s μ)
    (hrefs : ∀ r ∈ m.refs id, r ∈ μ.values) {i : Model.Inputs}
    (hi : m.inputsFrom (m.scenario s) μ.values id = .ok i) :
    (m.valueTable i).result = (m.valuation (m.scenario s)).outcome id := by
  rw [← hμ.values.step_eq hm hrefs]
  simp [Model.valuation, hi, Except.bind]

/-- The values of a node are filled in from those of its refs. -/
theorem fills_values (hm : m.Accepted) :
    Fills m s Memo.values (m.valuation (m.scenario s)) m.computeValues where
  sound hμ := hμ.values
  below hb := hb.values
  yields := by
    intro μ k hμ hk hrefs
    unfold Model.computeValues
    have hkeeps := keeps_inputs (m := m) k μ
    have hin := yields_inputs hm hμ k
    refine hin.bind ?_ fun e he => by
      rw [Model.outcome_valuation, Model.inputsOf,
        Model.inputsFrom_map (t := (m.inputs k μ).memo.values), he]
      rfl
    rintro i hi ν rfl hν hb
    have hout := valueTable_of_inputs hm hν (fun r hr => hb.values r (hrefs r hr)) hi
    rw [← hout]
    refine yields_derive_bind hν ?_ fun e he => by rw [he]; rfl
    intro table htable
    rw [htable]
    have hnew : k ∉ (m.inputs k μ).memo.values := by rwa [hkeeps]
    have hsound := hν.values.insert hnew (fun r hr => hb.values r (hrefs r hr)) (hout ▸ htable)
    refine ⟨rfl, ⟨hν.scenario, hν.edges, hν.tags, hsound, hν.drawn, hν.root, ?_⟩, ?_⟩
    · -- the node goes behind all others, here as there
      change (m.inputs k μ).memo.computed ++ [k] = Table.keys (Table.insert _ k table)
      rw [Table.keys_insert, if_neg hnew, hν.computed]
    exact ⟨List.prefix_rfl, Table.keys_prefix_insert _ _ _, fun _ h => h⟩
  mem := by
    intro μ k h j
    unfold Model.computeValues at h ⊢
    obtain ⟨i, -, h, hmemo⟩ := Session.of_bind_ok h
    rw [hmemo]
    obtain ⟨table, -, -, hmemo⟩ := Session.of_bind_ok h
    rw [hmemo, ← keeps_inputs (m := m) k μ]
    exact Table.mem_insert

/-- **The values of a node** other than the root. -/
theorem yields_nodeValues (hm : m.Accepted) (hμ : MemoOK m s μ) (id : String) :
    Yields m s (m.nodeValues id) μ ((m.valuation (m.scenario s)).reading id) :=
  (fills_values hm).reading hm hμ id

/-- **The values of a node.** -/
theorem yields_values (hm : m.Accepted) (hμ : MemoOK m s μ) (id : String) :
    Yields m s (m.values id) μ (m.valuesOf (m.scenario s) id) := by
  unfold Model.values Model.valuesOf
  split
  · exact yields_rootValues hμ
  · exact yields_nodeValues hm hμ id

/-- Values that have been read are known, and so are those of the refs. -/
theorem mem_values_of_nodeValues {values : Table Float} (h : (m.nodeValues id μ).result = .ok values) :
    id ∈ (m.nodeValues id μ).memo.values := by
  unfold Model.nodeValues at h ⊢
  obtain ⟨_, -, h, hmemo⟩ := Session.of_bind_ok h
  rw [hmemo]
  have hget := Derived.entry_ok.1 h
  exact Table.mem_of_get? hget

/-- The inputs of a node with known values give the drawing of the node. -/
theorem drawnEdges_of_inputs (hm : m.Accepted) (hμ : MemoOK m s μ) (hid : id ≠ rootId)
    (hknown : id ∈ μ.values) {values : Table Float}
    (hvalues : (m.valuation (m.scenario s)).reading id = .ok values) {i : Model.Inputs}
    (hi : m.inputsFrom (m.scenario s) μ.values id = .ok i) :
    (m.drawnEdges id i values).result = m.drawingOf (m.scenario s) id := by
  obtain ⟨-, -, -, hedges, -, hi'⟩ := Model.inputsFrom_ok.1 hi
  -- refs of the node are known, too, so they have their settled values
  have hagree : ∀ e ∈ i.edges, e.ref ≠ rootId →
      i.known.get? e.ref = (m.valuation (m.scenario s)).settled.get? e.ref := by
    intro e he hroot
    have hr := Model.mem_refs_of_edgesOf hedges he hroot
    obtain ⟨b, hget, hout⟩ := hμ.values.outcome_ok (hμ.values.closed id hknown e.ref hr)
    rw [hi', hget, (Propagation.get?_settled_ref hm hr).2 hout]
  rw [Model.drawingOf, if_neg hid, hvalues, Model.inputsOf, Model.inputsFrom_map (t := μ.values), hi]
  exact (congrArg Traced.result (Model.drawnEdges_congr hagree)).symm

/-- **The edges of a node as they are drawn.** -/
theorem yields_drawing (hm : m.Accepted) (hμ : MemoOK m s μ) (id : String) :
    Yields m s (m.drawing id) μ (m.drawingOf (m.scenario s) id) := by
  unfold Model.drawing
  split
  · rename_i hid
    rw [Model.drawingOf, if_pos hid]
    exact yields_pure hμ []
  rename_i hid
  refine yields_memo_bind ?_
  cases hdrawn : μ.drawn.get? id with
  | some drawn =>
    simp only [hμ.drawn id drawn hdrawn]
    exact yields_pure hμ drawn
  | none =>
    simp only
    refine (yields_nodeValues hm hμ id).bind ?_ fun e he => by
      simp [Model.drawingOf, hid, he, Except.bind]
    rintro values hvalues ν rfl hν -
    have hknown := mem_values_of_nodeValues ((yields_nodeValues hm hμ id).result.trans hvalues)
    refine (yields_inputs hm hν id).bind ?_ fun e he => by
      rw [Model.drawingOf, if_neg hid, hvalues, Model.inputsOf,
        Model.inputsFrom_map (t := (m.inputs id (m.nodeValues id μ).memo).memo.values), he]
      rfl
    rintro i hi ξ rfl hξ hb
    have hout := drawnEdges_of_inputs hm hξ hid (hb.values id hknown) hvalues hi
    rw [← hout]
    -- what is drawn now is memoized, and is the drawing of the node
    refine yields_derive_bind hξ ?_ fun e he => he
    intro drawn hres
    rw [hres]
    refine yields_update_bind ⟨List.prefix_rfl, List.prefix_rfl, fun _ h => h⟩ (yields_pure ?_ drawn)
    exact ⟨hξ.scenario, hξ.edges, hξ.tags, hξ.values,
      Table.forall_get?_insert hξ.drawn (hout.symm.trans hres), hξ.root, hξ.computed⟩

end ValuedGraph
