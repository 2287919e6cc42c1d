import ValuedGraph.Proofs.Expr.Partial
import ValuedGraph.Proofs.Model.Equations
import ValuedGraph.Proofs.Model.Failures

/-!
# Results that overrides read

Acceptance lets an override refer to the result of any property, as if all results were there.
But the override is evaluated with the results of the properties in front of its own. A result
that it reads is missing if the order of properties puts it behind, and nothing else ever is.

* `Model.OverrideFails.missing`: what an override misses is a result from behind its property.
* `Model.Accepted.inFront_of_reading`: a result that an override hands on is one from in front.
* `reads_miss_results_behind`: **the failures of reads of values.**
* `invoice_misses_net`: an accepted definition with a scenario under which a node cannot be read.
-/

namespace ValuedGraph

namespace Model

variable {m : Model} {s id name : String} {e : Expr}

/-- Where all results are there, an override misses nothing. An input that it does not read may
stand in for one that is not there. -/
theorem Accepted.override_finds (hm : m.Accepted)
    (hover : ((m.scenario s).overrides id).get? name = some e) {root results : Table Float}
    (hroot : ∀ k ∈ m.definition.properties, k ∈ root)
    (hresults : ∀ k ∈ m.definition.properties, k ∈ results) (input : List Float) (t : TagMembership) :
    (e.evaluate { root, results, input := some input, tags := t, tagConstants := m.tagConstants }).Finds :=
  (hm.override_property hover).2.finds (plainSurroundings_meets hroot hresults fun _ => rfl)

/-- **What an override misses** is the result of a property behind its own. -/
theorem OverrideFails.missing (hm : m.Accepted) {what : Missing}
    (h : m.OverrideFails s id name e (.missing what)) :
    ((m.scenario s).overrides id).get? name = some e ∧
      ∃ k ∈ e.dependencies, ¬ m.InFront k name ∧ what = .resultProperty k := by
  cases h with
  | @fails i before after results p t input _ hi hnode hover hp ht hl hresults hinput hnone h =>
    obtain ⟨-, hoverrides, hroot, -⟩ := inputsFrom_ok.1 hi
    rw [hoverrides] at hover
    refine ⟨hover, ?_⟩
    -- in all results, those of the properties in front keep their values
    set all := (m.definition.properties.map fun _ _ => 0.0).overlay results with hall
    have hbelow : results.Below all := by
      intro k a ha
      rw [hall, Table.get?_overlay, ha, Option.some_or]
    have hfull : ∀ k ∈ m.definition.properties, k ∈ all := fun k hk =>
      Table.mem_overlay.2 (Or.inl (by rwa [Table.mem_iff, Table.keys_map]))
    have hread : e.readsInput = true → input = some (input.getD []) := by
      intro hr
      obtain ⟨b, -, rfl⟩ := hinput hr
      rfl
    rcases Expr.evaluate_or_misses
      (s := { root := i.root, results, input, tags := t, tagConstants := m.tagConstants })
      hbelow hread with hsame | ⟨k, hk, hkr, hmiss⟩
    · have hfinds := hm.override_finds hover (fun k hk => (hm.mem_rootOf hroot).2 hk) hfull
        (input.getD []) t
      exact absurd (hsame.symm.trans h) (hfinds what)
    · refine ⟨k, hk, ?_, ?_⟩
      · rw [hm.inFront_iff hl, ← mem_valuesSoFar hresults]
        exact hkr
      · simpa using h.symm.trans hmiss

/-- A read of values fails over numbers, or because an override misses a result from behind. -/
theorem Accepted.valuesOf_error (hm : m.Accepted) (hid : id = rootId ∨ id ∈ m.definition.nodes)
    {f : ReadFailure} (h : m.valuesOf (m.scenario s) id = .error f) : f.Numerical ∨
      ∃ k ∈ m.lineage id, ∃ name e, ((m.scenario s).overrides k).get? name = some e ∧
        ∃ j ∈ e.dependencies, ¬ m.InFront j name ∧ f = .eval (.missing (.resultProperty j)) := by
  unfold valuesOf at h
  split at h
  · exact Or.inl (hm.numerical_of_rootOf h)
  rename_i hroot
  rcases hm.reading_error (hid.resolve_left hroot) h with hnum | ⟨k, hk, name, e, failure, hfails, rfl⟩
  · exact Or.inl hnum
  cases failure with
  | empty operand => exact Or.inl (.empty operand)
  | numeric fault => exact Or.inl (.numeric fault)
  | missing what =>
    obtain ⟨hover, j, hj, hbehind, rfl⟩ := hfails.missing hm
    exact Or.inr ⟨k, hk, name, e, hover, j, hj, hbehind, rfl⟩

/-- **A result that an override hands on** is one from in front, if the node can be read. -/
theorem Accepted.inFront_of_reading (hm : m.Accepted) {n : Node}
    (hn : m.definition.nodes.get? id = some n) (hvalue : n.values.get? name = none) {k : String}
    (hover : ((m.scenario s).overrides id).get? name = some (.resultValue k)) {v : Table Float}
    (h : (m.valuation (m.scenario s)).reading id = .ok v) : m.InFront k name := by
  have hname := (hm.override_property hover).1
  have hout := (Propagation.reading_ok.1 h).1
  obtain ⟨i, hi, hout⟩ := outcome_valuation_ok.1 hout
  obtain ⟨hnode, hoverrides, -⟩ := inputsFrom_ok.1 hi
  obtain rfl := Option.some.inj (hn.symm.trans hnode)
  obtain ⟨before, after, hl⟩ := List.append_of_mem ((hm.propertyOrder_ok.2.1 name).2 hname)
  obtain ⟨results, x, hresults, hx, -⟩ := valueTable_split hm hout hl
  rw [hm.inFront_iff hl, ← mem_valuesSoFar hresults]
  -- the value of the property is the result that its override refers to
  unfold valueOf at hx
  simp only [hvalue, hoverrides, hover] at hx
  obtain ⟨p, -, hx⟩ := Traced.result_bind_ok.1 hx
  obtain ⟨t, -, hx⟩ := Traced.result_bind_ok.1 hx
  obtain ⟨input, -, hx⟩ := Traced.result_bind_ok.1 hx
  obtain ⟨p', -, hx⟩ := Traced.result_bind_ok.1 hx
  obtain ⟨xs, hxs, -⟩ := Derived.reduce_ok.1 hx
  obtain ⟨ys, hys, -⟩ := Traced.result_bind_ok.1 hxs
  simp only [Expr.eval] at hys
  obtain ⟨y, hy, -⟩ := Traced.result_bind_ok.1 hys
  unfold Eval.found at hy
  split at hy
  · exact Table.mem_of_get? ‹_›
  · cases hy

end Model

variable {m : Model}

/-- **What reads of values fail with.** After any run, a read of values fails if the node is not
known, over numbers, or because an override of the node or of a node above it misses a result; and
the result that it misses is that of a property behind the overridden one in the order in which
properties are computed. So nothing is missing if overrides only refer to results from in front,
such as those of declared dependencies. But a node cannot be read if an override hands on a result
from behind. -/
theorem reads_miss_results_behind {d : Definition} (h : d.accept = .ok m) (ops : List Operation) :
    let μ := m.run ops {}
    let σ := m.scenario (m.active ops)
    (∀ id f, (m.read (.values id) μ).result = .error f →
      (m.node? id = none ∧ f = .unknownNode id) ∨ f.Numerical ∨
        ∃ k ∈ m.lineage id, ∃ name e, (σ.overrides k).get? name = some e ∧
          ∃ j ∈ e.dependencies, ¬ m.InFront j name ∧ f = .eval (.missing (.resultProperty j))) ∧
    (∀ id name n j, d.nodes.get? id = some n → n.values.get? name = none →
      (σ.overrides id).get? name = some (.resultValue j) → ¬ m.InFront j name →
        ∃ f, (m.read (.values id) μ).result = .error f) := by
  intro μ σ
  obtain ⟨hm, rfl⟩ := accepted_of_accept h
  constructor
  · intro id f hf
    cases hnode : m.node? id with
    | none =>
      have hunknown := read_unknown (m := m) (μ := μ) (r := .values id) rfl hnode
      exact Or.inl ⟨rfl, Except.error.inj (hf.symm.trans hunknown)⟩
    | some n =>
      right
      exact hm.valuesOf_error (Model.known_of_node? hnode)
        ((read_values_run hm ops hnode).symm.trans hf)
  · intro id name n j hn hvalue hover hbehind
    have hid : id ≠ rootId := (hm.nodes id n hn).ne_root
    have hknown : m.node? id = some n := by rw [Model.node?, if_neg hid, hn]
    rw [read_values_run hm ops hknown, Model.valuesOf, if_neg hid]
    cases hread : (m.valuation (m.scenario (m.active ops))).reading id with
    | error f => exact ⟨f, rfl⟩
    | ok v => exact absurd (hm.inFront_of_reading hn hvalue hover hread) hbehind

/-- An invoice: two amounts, and a refund that sets the second one to the first. -/
def invoice : Definition where
  properties := .ofList [
    ("net", { name := "net", value := .literal [1.0], calculateWhen := .always }),
    ("gross", { name := "gross", value := .literal [2.0], calculateWhen := .always })]
  nodes := .ofList [("shop", {})]
  scenarios := .ofList [("refund",
    { name := "refund", overlay := .ofList [("shop", .ofList [("gross", .resultValue "net")])] })]

/-- The invoice under the refund: the second amount is computed first. -/
theorem reads_miss_results_behind_invoice : ∃ m, invoice.accept = .ok m ∧
    let μ := m.run [.enter "refund"] {}
    let σ := m.scenario (m.active [.enter "refund"])
    (∀ id f, (m.read (.values id) μ).result = .error f →
      (m.node? id = none ∧ f = .unknownNode id) ∨ f.Numerical ∨
        ∃ k ∈ m.lineage id, ∃ name e, (σ.overrides k).get? name = some e ∧
          ∃ j ∈ e.dependencies, ¬ m.InFront j name ∧ f = .eval (.missing (.resultProperty j))) ∧
    (∀ id name n j, invoice.nodes.get? id = some n → n.values.get? name = none →
      (σ.overrides id).get? name = some (.resultValue j) → ¬ m.InFront j name →
        ∃ f, (m.read (.values id) μ).result = .error f) := by
  have h : invoice.accept = .ok _ := rfl
  exact ⟨_, h, reads_miss_results_behind h _⟩

/-- **An accepted override that cannot be evaluated:** what it refers to has no result yet. -/
theorem invoice_misses_net : ∃ m, invoice.accept = .ok m ∧
    m.active [.enter "refund"] = "refund" ∧
    ((m.scenario "refund").overrides "shop").get? "gross" = some (.resultValue "net") ∧
    (m.read (.values "shop") (m.run [.enter "refund"] {})).result =
      .error (.eval (.missing (.resultProperty "net"))) :=
  ⟨_, rfl, rfl, rfl, rfl⟩

end ValuedGraph
