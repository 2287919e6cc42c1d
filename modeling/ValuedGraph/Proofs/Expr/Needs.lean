import ValuedGraph.Model.Computation
import ValuedGraph.Proofs.Expr.Partial
import ValuedGraph.Proofs.Model.Accepted
import ValuedGraph.Proofs.Trace

/-!
# What an expression needs

The parts of the surroundings that an expression reads can be told from its walk, without
evaluating it. Surroundings that only differ in other parts give the same computation: the same
array or the same failure, with the same log. Of the results of the same node it is even known by
name which ones are read.

* `Expr.Needs`: the parts of the surroundings that some expression in the walk reads.
* `Surroundings.AgreeFor`: surroundings that agree on what an expression needs.
* `Expr.evaluate_congr`: **they give the same computation.**
* `Expr.evaluate_sees_needs`: what is not needed makes no difference, the input of an override in
  particular.
* `Expr.evaluate_sees_dependencies`: so do results that are not among the dependencies, and these
  are listed once each, in the order of the walk.
-/

namespace ValuedGraph

/-- **A part of the surroundings that an expression needs:** some expression in its walk reads it. -/
def Expr.Needs (e : Expr) (c : Capability) : Prop := ∃ x ∈ e.walk, x.capability = some c

namespace Expr

variable {e : Expr} {c : Capability}

/-- An expression needs what it reads itself. -/
theorem needs_of_capability (h : e.capability = some c) : e.Needs c := ⟨e, mem_walk_self e, h⟩

/-- An expression needs what its children need. -/
theorem Needs.of_child {d : Expr} (hd : d ∈ e.children) (h : d.Needs c) : e.Needs c := by
  obtain ⟨x, hx, hcap⟩ := h
  exact ⟨x, mem_walk_of_mem_children hd hx, hcap⟩

/-- To read the input is to need it. -/
theorem readsInput_iff : e.readsInput = true ↔ e.Needs .input := by
  simp [readsInput, Needs, List.any_eq_true]

/-- A result reference needs results. -/
theorem needs_of_resultValue {k : String} (h : .resultValue k ∈ e.walk) : e.Needs .resultValue :=
  ⟨_, h, rfl⟩

end Expr

/-- **Surroundings that agree on what an expression needs.** Of the results, only those count that
the expression names. -/
structure Surroundings.AgreeFor (e : Expr) (s t : Surroundings) : Prop where
  edges : e.Needs .edgeConstant → s.edges = t.edges
  refs : e.Needs .parentValue → s.refs = t.refs
  root : e.Needs .rootValue → s.root = t.root
  results : ∀ k, .resultValue k ∈ e.walk → s.results.get? k = t.results.get? k
  input : e.Needs .input → s.input = t.input
  bindings : s.bindings = t.bindings
  tags : e.Needs .tagHas ∨ e.Needs .tagConstant → s.tags = t.tags ∧ s.tagConstants = t.tagConstants

namespace Surroundings.AgreeFor

variable {e c : Expr} {s t : Surroundings}

/-- A child needs no more than its parent. -/
theorem child (h : s.AgreeFor e t) (hc : c ∈ e.children) : s.AgreeFor c t where
  edges hn := h.edges (hn.of_child hc)
  refs hn := h.refs (hn.of_child hc)
  root hn := h.root (hn.of_child hc)
  results k hk := h.results k (Expr.mem_walk_of_mem_children hc hk)
  input hn := h.input (hn.of_child hc)
  bindings := h.bindings
  tags hn := h.tags (hn.imp (Expr.Needs.of_child hc) (Expr.Needs.of_child hc))

/-- The block of a binding sees the same array bound on both sides. -/
theorem bind (h : s.AgreeFor e t) (name : String) (xs : List Float) :
    (s.bind name xs).AgreeFor e (t.bind name xs) := by
  have hbindings : (s.bind name xs).bindings = (t.bind name xs).bindings := by
    simp only [Surroundings.bind, h.bindings]
  exact ⟨h.edges, h.refs, h.root, h.results, h.input, hbindings, h.tags⟩

end Surroundings.AgreeFor

/-- Equal computations. -/
def Eval.Same : EvalRelation := fun _ x y => x = y

theorem Eval.same_compatible : Eval.Compatible Eval.Same where
  pure _ := rfl
  bind := by
    intro α β x y f g hxy hf
    have hy : x = y := hxy
    subst hy
    exact Traced.bind_congr fun a ha => hf a ha ha
  need _ _ := rfl
  numeric _ := rfl
  tell _ := rfl

namespace Expr

variable {e : Expr} {s t : Surroundings}

theorem agreeFor_compatible : Compatible Eval.Same fun e s t => s.AgreeFor e t where
  child h _ _ hc := h.child hc
  value h := h.child (by simp [children])
  block h xs := (h.child (by simp [children])).bind _ xs
  input := by
    intro s t h
    have hinput := h.input (needs_of_capability rfl)
    simp only [eval, hinput, Eval.Same]
  edgeConstant := by
    intro k s t h
    have hedges := h.edges (needs_of_capability rfl)
    simp only [eval, hedges, Eval.Same]
  parentValue := by
    intro k s t h
    have hrefs := h.refs (needs_of_capability rfl)
    simp only [eval, hrefs, Eval.Same]
  rootValue := by
    intro k s t h
    have hroot := h.root (needs_of_capability rfl)
    simp only [eval, hroot, Eval.Same]
  resultValue := by
    intro k s t h
    have hresult := h.results k (mem_walk_self _)
    simp only [eval, hresult, Eval.Same]
  hasTag := by
    intro k scope s t h
    obtain ⟨htags, hconstants⟩ := h.tags (Or.inl (needs_of_capability rfl))
    simp only [eval, Surroundings.hasTag, htags, hconstants, Eval.Same]
  var := by
    intro k s t h
    simp only [eval, h.bindings, Eval.Same]
  count := by
    -- each mode needs what its length is taken from
    intro mode e s t h
    cases mode with
    | refs =>
      have hrefs := h.refs (needs_of_capability rfl)
      simp only [Surroundings.count, hrefs, Eval.Same]
    | edges =>
      have hedges := h.edges (needs_of_capability rfl)
      simp only [Surroundings.count, hedges, Eval.Same]
    | input =>
      have hinput := h.input (needs_of_capability rfl)
      simp only [Surroundings.count, hinput, Eval.Same]
  tagColumn := by
    intro k scope default s t h
    obtain ⟨htags, hconstants⟩ := h.tags (Or.inr (needs_of_capability rfl))
    simp only [Surroundings.tagColumn, htags, hconstants]

/-- **Surroundings that agree on what an expression needs** give the same computation. -/
theorem evaluate_congr (h : s.AgreeFor e t) : e.evaluate s = e.evaluate t :=
  evaluate_related Eval.same_compatible agreeFor_compatible h

/-- An expression that does not read the input does not see it. -/
theorem evaluate_input (h : e.readsInput = false) (input : Option (List Float)) :
    e.evaluate { s with input } = e.evaluate s := by
  have hinput : ¬ e.Needs .input := by
    intro hneeds
    rw [← readsInput_iff, h] at hneeds
    cases hneeds
  refine evaluate_congr ⟨fun _ => rfl, fun _ => rfl, fun _ => rfl, fun _ _ => rfl, ?_, rfl,
    fun _ => ⟨rfl, rfl⟩⟩
  exact fun hneeds => absurd hneeds hinput

/-- An override that does not read the input comes to the same value whatever its input is. -/
theorem overridden_input (h : e.readsInput = false) (m : Model) (name : String)
    (input : Option (List Float)) : m.overridden name e { s with input } = m.overridden name e s := by
  unfold Model.overridden
  split
  · rfl
  · have hreduce : ∀ c, Derived.reduce c e { s with tagConstants := m.tagConstants, input } =
        Derived.reduce c e { s with tagConstants := m.tagConstants } := by
      intro c
      unfold Derived.reduce
      rw [evaluate_input (s := { s with tagConstants := m.tagConstants }) h]
    simp only [hreduce]

/-- **An expression sees no more than it needs.** Surroundings with the same bound arrays that agree
on the parts that expressions in the walk require give the same computation, whatever else is in
them. So an override that does not read the input comes to the value that it would come to with any
input: the value that it replaces need not be computed. -/
theorem evaluate_sees_needs (hbindings : s.bindings = t.bindings)
    (hedges : e.Needs .edgeConstant → s.edges = t.edges)
    (hrefs : e.Needs .parentValue → s.refs = t.refs)
    (hroot : e.Needs .rootValue → s.root = t.root)
    (hresults : e.Needs .resultValue → s.results = t.results)
    (hinput : e.Needs .input → s.input = t.input)
    (htags : e.Needs .tagHas ∨ e.Needs .tagConstant →
      s.tags = t.tags ∧ s.tagConstants = t.tagConstants) :
    e.evaluate s = e.evaluate t ∧ (e.readsInput = true ↔ e.Needs .input) ∧
      (e.readsInput = false → ∀ (m : Model) (i : Model.Inputs) (results : Table Float) (name : String)
        (p : Property) (tags : TagMembership), m.definition.properties.get? name = some p →
        i.node.values.get? name = none → i.tags.get? name = some tags →
        i.overrides.get? name = some e → ∀ input,
          m.valueOf i results name = m.overridden name e { root := i.root, results, input, tags }) := by
  refine ⟨?_, readsInput_iff, ?_⟩
  · have hnamed : ∀ k, .resultValue k ∈ e.walk → s.results.get? k = t.results.get? k := by
      intro k hk
      rw [hresults (needs_of_resultValue hk)]
    exact evaluate_congr ⟨hedges, hrefs, hroot, hnamed, hinput, hbindings, htags⟩
  · intro hreads m i results name p tags hp hnode htag hover input
    have hproperty : m.property name = pure p := by simp only [Model.property, Derived.entry, hp]
    have hentry : Derived.entry i.tags name = pure tags := by simp only [Derived.entry, htag]
    have hskip : m.valueOf i results name =
        m.overridden name e { root := i.root, results, input := none, tags } := by
      unfold Model.valueOf
      simp [hnode, hproperty, hentry, hover, hreads]
    rw [hskip]
    exact (overridden_input (s := { root := i.root, results, tags }) hreads m name input).symm

/-- Twice the flow, as an override of the depth of a river. -/
theorem evaluate_sees_needs_river : ∃ m, river.accept = .ok m ∧
    let e : Expr := arithmetic .multiply (resultValue "flow") (literal [2.0])
    let s : Surroundings := { results := .ofList [("flow", 3.0)] }
    let t : Surroundings :=
      { edges := [.ofList [("slope", 1.0)]], root := .ofList [("flow", 8.0)]
        results := .ofList [("flow", 3.0)], input := some [7.0], tags := ⟨["deep"], ["deep"]⟩ }
    let i : Model.Inputs :=
      { node := {}, edges := [], tags := .ofList [("depth", {})], overrides := .ofList [("depth", e)]
        root := ∅, known := ∅ }
    e.evaluate s = e.evaluate t ∧ e.readsInput = false ∧
      m.valueOf i s.results "depth" =
        m.overridden "depth" e { root := i.root, results := s.results, input := some [7.0], tags := {} } := by
  have h : river.accept = .ok _ := rfl
  refine ⟨_, h, ?_⟩
  intro e s t i
  have hwalk : e.walk = [e, resultValue "flow", literal [2.0]] := rfl
  have hneeds : ∀ c, e.Needs c → c = .resultValue := by
    rintro c ⟨x, hx, hc⟩
    rw [hwalk] at hx
    simp only [List.mem_cons, List.not_mem_nil, or_false] at hx
    rcases hx with rfl | rfl | rfl <;> simp_all [capability, e]
  have hnot : ∀ {c : Capability} {p : Prop}, c ≠ .resultValue → e.Needs c → p := fun hc hn =>
    absurd (hneeds _ hn) hc
  obtain ⟨hsame, -, hskip⟩ := evaluate_sees_needs (e := e) (s := s) (t := t) rfl
    (hnot (by decide)) (hnot (by decide)) (hnot (by decide)) (fun _ => rfl) (hnot (by decide))
    (fun hn => hn.elim (hnot (by decide)) (hnot (by decide)))
  exact ⟨hsame, rfl, hskip rfl _ i s.results "depth" _ {} rfl rfl rfl rfl (some [7.0])⟩

/-- **The dependencies of an expression are all the results that it sees.** Surroundings that only
differ in results, but not at the dependencies, give the same computation. The dependencies are the
properties that result references anywhere in the expression name, each of them once, in the order
of the first references, parents before children and from left to right. -/
theorem evaluate_sees_dependencies (e : Expr) :
    let names := e.preorder.filterMap resultName?
    (∀ (s : Surroundings) (results : Table Float),
      (∀ k ∈ e.dependencies, s.results.get? k = results.get? k) →
        e.evaluate s = e.evaluate { s with results }) ∧
    (∀ k, k ∈ e.dependencies ↔ resultValue k ∈ e.preorder) ∧ e.dependencies.Nodup ∧
      e.dependencies.Pairwise fun j k => names.idxOf j < names.idxOf k := by
  intro names
  refine ⟨?_, ?_, nodup_eraseDups _, ?_⟩
  · intro s results h
    have hnamed : ∀ k, .resultValue k ∈ e.walk → s.results.get? k = results.get? k :=
      fun k hk => h k (mem_dependencies.2 hk)
    exact evaluate_congr ⟨fun _ => rfl, fun _ => rfl, fun _ => rfl, hnamed, fun _ => rfl, rfl,
      fun _ => ⟨rfl, rfl⟩⟩
  · intro k
    rw [mem_dependencies, walk_eq_preorder]
  · have hdependencies : e.dependencies = names.eraseDups := by
      unfold dependencies
      rw [walk_eq_preorder]
    rw [hdependencies]
    exact pairwise_eraseDups names

/-- A depth between bounds, the upper one of which is named first. -/
theorem evaluate_sees_dependencies_bounded :
    let e : Expr := bind "high" (resultValue "flood")
      (clip (resultValue "depth") (some (filter (resultValue "flood") (literal [0.0])
        (some (resultValue "depth")))) (some (var "high")))
    let s : Surroundings := { results := .ofList [("depth", 3.0), ("flood", 2.0)] }
    let results : Table Float := .ofList [("flow", 8.0), ("flood", 2.0), ("depth", 3.0)]
    e.dependencies = ["flood", "depth"] ∧ e.evaluate s = e.evaluate { s with results } := by
  intro e s results
  have hdependencies : e.dependencies = ["flood", "depth"] := rfl
  refine ⟨hdependencies, (evaluate_sees_dependencies e).1 s results fun k hk => ?_⟩
  rw [hdependencies] at hk
  simp only [List.mem_cons, List.not_mem_nil, or_false] at hk
  rcases hk with rfl | rfl <;> rfl

end Expr

end ValuedGraph
