import ValuedGraph.Proofs.Model.Failures

/-!
# Closed memos

Tags and values are memoized node by node, each node behind all nodes that its edges lead to. So
what is memoized is closed under refs after every run, whatever failed on the way, and a lookup of a
ref never misses. As long as values are not dropped, nothing is computed twice, and what was read
once is read again without any computation.

* `Model.RefsInFront`: **lists in which every node stands behind its refs.**
* `Model.Drops`: operations that drop values.
* `memo_extends`: between two drops the memo only grows.
* `read_again`: **values that were read are looked up from then on.**
* `memo_stays_closed`: **memos at the end of runs.**
-/

namespace ValuedGraph

variable {m : Model} {s id : String} {μ ν : Memo}

namespace Model

/-- **Every node of a list stands behind the nodes that its edges lead to,** written and implied,
the root apart. -/
def RefsInFront (m : Model) (l : List String) : Prop :=
  ∀ before id after, l = before ++ id :: after → ∃ edges, (m.expandedEdges id).result = .ok edges ∧
    ∀ e ∈ edges, e.ref ≠ rootId → e.ref ∈ before

/-- **The nodes that the edges of a node lead to are in a list** if the node is, the root apart. -/
def ClosedUnderRefs (m : Model) (l : List String) : Prop :=
  ∀ id ∈ l, ∃ edges, (m.expandedEdges id).result = .ok edges ∧
    ∀ e ∈ edges, e.ref ≠ rootId → e.ref ∈ l

/-- **An operation that drops values:** it forgets everything, or goes over to another scenario. -/
def Drops (m : Model) (s : String) : Operation → Prop
  | .enter name => m.knows name = true ∧ name ≠ s
  | .invalidate => True
  | .read _ => False

theorem RefsInFront.closed {l : List String} (h : m.RefsInFront l) : m.ClosedUnderRefs l := by
  intro id hid
  obtain ⟨before, after, hl⟩ := List.append_of_mem hid
  obtain ⟨edges, hedges, hrefs⟩ := h before id after hl
  refine ⟨edges, hedges, fun e he hroot => ?_⟩
  rw [hl]
  exact List.mem_append_left _ (hrefs e he hroot)

/-- A table of outcomes lists nodes behind their refs, if only nodes have outcomes. -/
theorem refsInFront_of_sound {β : Type} {P : Propagation m β} {t : Table β} (hm : m.Accepted)
    (ht : P.Sound t) (hnodes : ∀ k b, P.outcome k = .ok b → k ∈ m.definition.nodes) :
    m.RefsInFront t.keys := by
  intro before k after hl
  obtain ⟨b, -, hout⟩ := ht.outcome_ok (k := k) (Table.mem_iff.2 (by simp [hl]))
  obtain ⟨edges, hedges⟩ := hm.expandedEdges_ok (hnodes k b hout)
  refine ⟨edges, hedges, fun e he hroot => ?_⟩
  exact ht.ordered before k after hl e.ref ((ref_of_mem_expandedEdges hedges he).resolve_left hroot)

end Model

theorem refsInFront_values (hm : m.Accepted) (hμ : MemoOK m s μ) : m.RefsInFront μ.values.keys := by
  refine Model.refsInFront_of_sound hm hμ.values fun k v hout => ?_
  obtain ⟨i, hi, -⟩ := Model.outcome_valuation_ok.1 hout
  exact Table.mem_of_get? (Model.inputsFrom_ok.1 hi).1

theorem refsInFront_tags (hm : m.Accepted) (hμ : MemoOK m s μ) : m.RefsInFront μ.tags.keys := by
  refine Model.refsInFront_of_sound hm hμ.tags fun k t hout => ?_
  obtain ⟨edges, -, htable⟩ := Model.outcome_tagging_ok.1 hout
  obtain ⟨n, hn, -⟩ := Traced.result_bind_ok.1 htable
  exact Table.mem_of_get? (Derived.entry_ok.1 hn)

/-- **No lookup misses.** -/
theorem read_not_absent (hm : m.Accepted) (hμ : MemoOK m s μ) (r : Read) (key : String) :
    (m.read r μ).result ≠ .error (.absent key) := by
  intro h
  by_cases hknown : ∀ id, r.node? = some id → (m.node? id).isSome
  · have htolerable := (safe_read hm r hknown μ hμ).1 _ h
    cases htolerable with
    | numerical hnumerical => cases hnumerical
  · push Not at hknown
    obtain ⟨id, hid, hnone⟩ := hknown
    rw [read_unknown hid (by simpa using hnone)] at h
    cases h

/-- **Between two drops the memo only grows.** -/
theorem memo_extends (hm : m.Accepted) (hμ : MemoOK m s μ) {later : List Operation}
    (hlater : ∀ op ∈ later, ¬ m.Drops s op) :
    MemoOK m s (m.run later μ) ∧ μ.Below (m.run later μ) := by
  induction later generalizing μ with
  | nil => exact ⟨hμ, Memo.Below.refl μ⟩
  | cons op later ih =>
    have hstep : MemoOK m s (m.after μ op) ∧ μ.Below (m.after μ op) := by
      have hop := hlater op (by simp)
      cases op with
      | enter name =>
        have hsame : m.after μ (.enter name) = μ := by
          rw [Model.after, setScenario_memo, hμ.scenario]
          exact if_neg hop
        rw [hsame]
        exact ⟨hμ, Memo.Below.refl μ⟩
      | invalidate => exact absurd trivial hop
      | read r =>
        obtain ⟨_, hr⟩ := steady_read (s := s) hm r
        exact ⟨(hr μ hμ).memo, (hr μ hμ).below⟩
    obtain ⟨hok, hbelow⟩ := ih hstep.1 fun op' h => hlater op' (by simp [h])
    exact ⟨hok, hstep.2.trans hbelow⟩

/-- **Values of the root that are known** are looked up. -/
theorem rootValues_of_some {v : Table Float} (h : μ.root = some v) :
    m.rootValues μ = ⟨μ, [], .ok v⟩ := by
  simp [Model.rootValues, Bind.bind, Session.bind, Session.memo, h, Pure.pure]

/-- Values of the root that have been read are known. -/
theorem root_of_rootValues {v : Table Float} (h : (m.rootValues μ).result = .ok v) :
    (m.rootValues μ).memo.root = some v := by
  cases hroot : μ.root with
  | some v' =>
    rw [rootValues_of_some hroot] at h ⊢
    rw [hroot, Except.ok.inj h]
  | none =>
    have hread : m.rootValues μ =
        (Session.derive (m.rootTable (m.scenario μ.scenario)) >>= fun values =>
        Session.update (fun memo => { memo with root := some values }) >>= fun _ =>
          (pure values : Session (Table Float))) μ := by
      simp [Model.rootValues, Model.activeScenario, Bind.bind, Session.bind, Session.memo, hroot,
        Pure.pure]
    rw [hread] at h ⊢
    obtain ⟨values, -, h, hmemo⟩ := Session.of_bind_ok h
    rw [hmemo, ← Except.ok.inj h]
    rfl

/-- **Values of a node that are known** are looked up. -/
theorem nodeValues_of_mem (hid : id ∈ μ.values) :
    ∃ v, m.nodeValues id μ = ⟨μ, [], .ok v⟩ := by
  obtain ⟨v, hv⟩ := Table.exists_get? hid
  refine ⟨v, ?_⟩
  have hensure : m.ensure (fun memo k => (memo.values.get? k).isSome) m.computeValues id μ =
      (pure () : Session Unit) μ :=
    Fills.ensure_of_mem hid
  have hentry : Derived.entry μ.values id = pure v := by
    simp [Derived.entry, hv]
  simp only [Model.nodeValues, Bind.bind, Session.bind, hensure, Session.memo, Session.derive]
  change Reply.mk μ (Derived.entry μ.values id).log (Derived.entry μ.values id).result = _
  rw [hentry]
  rfl

/-- A read of the values of a node or of the root. -/
def Read.GivesValues : Read → Prop
  | .values _ | .rootValues => True
  | _ => False

/-- **Values that were read are looked up from then on,** as long as the memo only grows. -/
theorem read_again (hm : m.Accepted) (hμ : MemoOK m s μ) {r : Read} (hr : r.GivesValues)
    {v : r.Answer} (h : (m.read r μ).result = .ok v) (hν : MemoOK m s ν)
    (hbelow : (m.read r μ).memo.Below ν) :
    m.read r ν = ⟨ν, [], .ok v⟩ := by
  cases r with
  | rootValues => exact rootValues_of_some (hbelow.root v (root_of_rootValues h))
  | values id =>
    cases hnode : m.node? id with
    | none =>
      rw [read_unknown (r := .values id) rfl hnode] at h
      cases h
    | some n =>
      have hread : m.read (.values id) = m.values id := find_bind hnode fun _ => m.values id
      rw [hread] at h hbelow ⊢
      by_cases hroot : id = rootId
      · have hvalues : m.values id = m.rootValues := if_pos hroot
        rw [hvalues] at h hbelow ⊢
        exact rootValues_of_some (hbelow.root v (root_of_rootValues h))
      · have hvalues : m.values id = m.nodeValues id := if_neg hroot
        rw [hvalues] at h hbelow ⊢
        obtain ⟨v', hv'⟩ := nodeValues_of_mem (hbelow.values id (mem_values_of_nodeValues h))
        -- both reads give the outcome of the node
        have hsame : (m.nodeValues id ν).result = (m.nodeValues id μ).result :=
          (yields_nodeValues hm hν id).result.trans (yields_nodeValues hm hμ id).result.symm
        rw [h, hv'] at hsame
        obtain rfl := Except.ok.inj hsame
        exact hv'
  | edges id | allEdges | tags id | drawing id | drawNode id | summary => cases hr

/-- **What is memoized is closed under refs, and nothing is computed twice.** At the end of every
run, whatever failed on the way, memoized values and tags are closed under refs, and list every node
behind its refs; so no read ever fails over a lookup that misses. Since values were last dropped,
each node's values were computed at most once, and after those of its refs. And as long as they are
not dropped, no node is computed anew, and values that were read are read again without any
computation: the memo stays as it is and nothing is logged. -/
theorem memo_stays_closed {d : Definition} (h : d.accept = .ok m) (ops : List Operation) :
    let μ := m.run ops {}
    (m.ClosedUnderRefs μ.values.keys ∧ m.ClosedUnderRefs μ.tags.keys ∧
      ∀ r key, (m.read r μ).result ≠ .error (.absent key)) ∧
    (μ.computed.Nodup ∧ (∀ id, id ∈ μ.computed ↔ id ∈ μ.values) ∧ m.RefsInFront μ.computed ∧
      m.RefsInFront μ.tags.keys) ∧
    ∀ later, (∀ op ∈ later, ¬ m.Drops (m.active ops) op) →
      μ.computed <+: (m.run later μ).computed ∧
      ∀ r v, r.GivesValues → (m.read r μ).result = .ok v →
        let ν := m.run (.read r :: later) μ
        m.read r ν = ⟨ν, [], .ok v⟩ := by
  intro μ
  obtain ⟨hm, -⟩ := accepted_of_accept h
  have hμ : MemoOK m (m.active ops) μ := memoOK_run hm ops
  have hvalues := refsInFront_values hm hμ
  have htags := refsInFront_tags hm hμ
  refine ⟨⟨hvalues.closed, htags.closed, read_not_absent hm hμ⟩, ?_, fun later hlater => ⟨?_, ?_⟩⟩
  · rw [hμ.computed]
    exact ⟨μ.values.nodup_keys, fun _ => Iff.rfl, hvalues, htags⟩
  · obtain ⟨hν, hbelow⟩ := memo_extends hm hμ hlater
    rw [hμ.computed, hν.computed]
    exact hbelow.valueKeys
  · intro r v hr hread
    obtain ⟨_, hsteady⟩ := steady_read (s := m.active ops) hm r
    obtain ⟨hν, hbelow⟩ := memo_extends hm (hsteady μ hμ).memo hlater
    exact read_again hm hμ hr hread hν hbelow

/-- The river with gauges, which tell all values. -/
def gauges : Definition :=
  { river with
    nodes := .ofList [
      ("mouth",
        { values := .ofList [("flow", 2.0), ("depth", 3.0)]
          edges := [{ type := "flow", ref := some "spring" }] }),
      ("spring", { values := .ofList [("flow", 1.0), ("depth", 0.5)] })] }

/-- The gauges in a drought. A scenario that is not known drops nothing. -/
theorem memo_stays_closed_gauges : ∃ m, gauges.accept = .ok m ∧
    let later : List Operation := [.enter "flood", .read (.edges "mouth"), .enter "drought"]
    let μ := m.run [.read (.values "mouth"), .enter "drought", .read (.values "spring")] {}
    let ν := m.run (.read (.values "mouth") :: later) μ
    (μ.computed = ["spring"] ∧ m.ClosedUnderRefs μ.values.keys) ∧ ν.computed = ["spring", "mouth"] ∧
      m.read (.values "mouth") ν = ⟨ν, [], .ok (.ofList [("flow", 2.0), ("depth", 3.0)])⟩ := by
  have h : gauges.accept = .ok _ := rfl
  obtain ⟨⟨hclosed, -⟩, -, hagain⟩ := memo_stays_closed h
    [.read (.values "mouth"), .enter "drought", .read (.values "spring")]
  refine ⟨_, h, ⟨rfl, hclosed⟩, rfl, ?_⟩
  refine
    (hagain [.enter "flood", .read (.edges "mouth"), .enter "drought"] ?_).2 (.values "mouth") _
    trivial rfl
  intro op hop
  simp only [List.mem_cons, List.not_mem_nil, or_false] at hop
  rcases hop with rfl | rfl | rfl
  · exact fun hdrops => Bool.false_ne_true hdrops.1
  · exact id
  · exact fun hdrops => hdrops.2 rfl

end ValuedGraph
