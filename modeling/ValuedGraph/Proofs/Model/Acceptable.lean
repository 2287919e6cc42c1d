import ValuedGraph.Proofs.Expr.Violations
import ValuedGraph.Proofs.Model.Accepted

/-!
# What is accepted

The facts that the checks of acceptance establish are all that they look for. So a model that has
them is the one that its definition is accepted as, in whichever order and under whichever paths
the checks go through the definition.

* `Expr.Valid.demandValid`: an expression is valid at every path.
* `Definition.PropertyOK.check`, `NodeOK.check`, `EdgeOK.check`, `ScenarioOK.check`: **what passes
  each check.**
* `Model.Accepted.accept`: **what is accepted.**
-/

namespace ValuedGraph

/-- **A valid expression** is valid at every path. -/
theorem Expr.Valid.demandValid {e : Expr} {p : Permissions} (h : e.Valid p) (path : String) :
    Definition.demandValid e p path = .ok () := by
  obtain ⟨place, hv⟩ := h
  have hnone := violation_congr (fun _ _ hown => hown) (Expr.validate_ok.1 hv) path
  rw [Definition.demandValid, Expr.validate_ok.2 hnone]
  rfl

/-- **A valid expression stays valid** where there are more properties, whatever messages call the
place. -/
theorem Expr.Valid.of_properties_owner {e : Expr} {p : Permissions} (h : e.Valid p)
    {names : List String} (hnames : ∀ k ∈ p.properties, k ∈ names) (owner : String) :
    e.Valid { p with properties := names, owner } := by
  obtain ⟨path, hv⟩ := h
  refine ⟨path, Expr.validate_ok.2 (violation_congr (fun bound e hown => ?_) (validate_ok.1 hv) path)⟩
  unfold ownViolation at hown ⊢
  simp only [Option.orElse_eq_orElse, Option.orElse_eq_or, Option.or_eq_none_iff] at hown ⊢
  obtain ⟨hlacked, hreference, hscope⟩ := hown
  refine ⟨?_, ?_, hscope⟩
  · unfold lackedCapability at hlacked ⊢
    split at hlacked <;> simp_all [unlessAllowed_eq_none]
  · -- properties only matter to references
    cases e <;>
      simp_all [unknownReference, unlessAllowed_eq_none, Option.orElse_eq_orElse, Option.orElse_eq_or]

theorem Expr.Valid.of_properties {e : Expr} {p : Permissions} (h : e.Valid p) {names : List String}
    (hnames : ∀ k ∈ p.properties, k ∈ names) : e.Valid { p with properties := names } :=
  h.of_properties_owner hnames p.owner

/-- A check that went well goes on. -/
theorem bind_check {ε β : Type} {x : Except ε PUnit} {f : PUnit → Except ε β} {b : β}
    (hx : x = .ok ()) (hf : f () = .ok b) : (x >>= f) = .ok b := by
  rw [hx]
  exact hf

/-- A check of all members of a list goes well if it does for each of them. -/
theorem forM_of_forall {ε α : Type} {f : α → Except ε PUnit} {l : List α}
    (h : ∀ a ∈ l, f a = .ok ()) : l.forM f = .ok () := by
  induction l with
  | nil => rfl
  | cons a l ih => exact bind_check (h a (by simp)) (ih fun b hb => h b (by simp [hb]))

namespace Definition

variable {d : Definition}

theorem demandProperty_of_mem {name : String} (h : name ∈ d.properties) (path : String) :
    d.demandProperty path name = .ok () := demand_ok.2 (by simpa using h)

theorem demandUnreserved_of_eq_nil {constants : Table Float}
    (h : reservedAmong constants.keys = []) (path : String) :
    demandUnreserved path constants = .ok () := demand_ok.2 (by simp [h])

theorem PropertyOK.check {name : String} {p : Property} (h : d.PropertyOK name p) :
    d.checkProperty name p = .ok () := by
  unfold checkProperty
  refine bind_check (forM_of_forall fun k hk => demandProperty_of_mem (h.dependencies k hk) _) ?_
  refine bind_check (forM_of_forall fun k hk => demandProperty_of_mem (h.implies k hk) _) ?_
  refine bind_check (demandUnreserved_of_eq_nil h.unreserved _) ?_
  refine bind_check (h.value.demandValid _) ?_
  exact forM_of_forall fun e he => (h.display e.1 e.2 he).demandValid _

theorem EdgeOK.check {e : Edge} (h : d.EdgeOK e) (path : String) : d.checkEdge path e = .ok () := by
  unfold checkEdge
  refine bind_check (demand_ok.2 (by simpa using h.type)) ?_
  cases href : e.ref with
  | none => exact demandUnreserved_of_eq_nil h.unreserved path
  | some ref =>
    refine bind_check (demand_ok.2 (by simpa using h.ref ref href)) ?_
    exact demandUnreserved_of_eq_nil h.unreserved path

theorem NodeOK.check {id : String} {n : Node} (h : d.NodeOK id n) : d.checkNode id n = .ok () := by
  unfold checkNode
  refine bind_check (demand_ok.2 (by simpa using h.ne_root)) ?_
  refine bind_check (forM_of_forall fun k hk => demandProperty_of_mem (h.values k hk) _) ?_
  refine bind_check (forM_of_forall fun tag ht => demand_ok.2 (by simpa using h.tags tag ht)) ?_
  refine bind_check (forM_of_forall fun e he => ?_) ?_
  · exact (h.edges e.1 (List.mem_iff_getElem?.2 ⟨e.2, List.mem_zipIdx_iff_getElem?.1 he⟩)).check _
  · exact forM_of_forall fun e he => (h.display e.1 e.2 he).demandValid _

theorem ScenarioOK.check {name : String} {s : Scenario} (h : d.ScenarioOK name s) :
    d.checkScenario name s = .ok () := by
  unfold checkScenario
  refine bind_check (demand_ok.2 (by simpa using h.ne_default)) (forM_of_forall fun o ho => ?_)
  refine bind_check (demand_ok.2 (by simpa using h.nodes o.1 o.2 ho)) (forM_of_forall fun e he => ?_)
  obtain ⟨hproperty, hvalid⟩ := h.overrides o.1 o.2 ho e.1 e.2 he
  exact bind_check (demandProperty_of_mem hproperty _) (hvalid.demandValid _)

end Definition

/-- **What is accepted:** a model that has the facts is the one of its definition. -/
theorem Model.Accepted.accept {m : Model} (h : m.Accepted) : m.definition.accept = .ok m := by
  unfold Definition.accept
  refine bind_check (forM_of_forall fun e he => (h.properties e.1 e.2 ?_).check) ?_
  · exact Table.get?_eq_some_iff.2 he
  rw [h.propertyOrder]
  refine bind_check (forM_of_forall fun k hk => Definition.demandProperty_of_mem (h.root k hk) _) ?_
  refine bind_check (bind_check ?_ ?_) ?_
  · exact forM_of_forall fun e he => (h.nodeDisplay e.1 e.2 he).demandValid _
  · exact forM_of_forall fun e he => (h.mergedDisplay e.1 e.2 he).demandValid _
  refine bind_check (forM_of_forall fun e he => (h.nodes e.1 e.2 ?_).check) ?_
  · exact Table.get?_eq_some_iff.2 he
  refine bind_check (forM_of_forall fun e he => (h.scenarios e.1 e.2 ?_).check) ?_
  · exact Table.get?_eq_some_iff.2 he
  rw [h.nodeOrder]
  change Except.ok _ = _
  rw [← h.graph]

end ValuedGraph
