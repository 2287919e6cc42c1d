import ValuedGraph.Proofs.Expr.Monotone

/-!
# Results that are left out

An expression that is evaluated with some results left out gives what it gives with all of them,
or it has come to a reference to one that is left out. Nothing else can happen, so it is known
what is missing. An input makes no difference to an expression that does not read it.

* `Surroundings.PartFor`: surroundings with results left out, as far as an expression can see.
* `Expr.evaluate_or_misses`: **an evaluation goes on as with all results, or ends at one that is
  left out.**
-/

namespace ValuedGraph

/-- **Surroundings with some results left out,** as far as an expression can see: those with names
in `out`. -/
structure Surroundings.PartFor (out : String → Prop) (e : Expr) (s t : Surroundings) : Prop where
  edges : s.edges = t.edges
  refs : s.refs = t.refs
  root : s.root = t.root
  results : ∀ k, .resultValue k ∈ e.walk →
    s.results.get? k = t.results.get? k ∨ out k ∧ s.results.get? k = none
  input : e.readsInput = true → s.input = t.input
  bindings : s.bindings = t.bindings
  tags : s.tags = t.tags
  tagConstants : s.tagConstants = t.tagConstants

/-- An expression reads the input if a child of it does. -/
theorem Expr.readsInput_of_mem_children {e c : Expr} (hc : c ∈ e.children)
    (h : c.readsInput = true) : e.readsInput = true := by
  unfold readsInput at h ⊢
  rw [List.any_eq_true] at h ⊢
  obtain ⟨x, hx, hcap⟩ := h
  exact ⟨x, mem_walk_of_mem_children hc hx, hcap⟩

/-- An expression reads the input if it does so itself. -/
theorem Expr.readsInput_of_capability {e : Expr} (h : e.capability = some .input) :
    e.readsInput = true := by
  unfold readsInput
  rw [List.any_eq_true]
  exact ⟨e, mem_walk_self e, by simp [h]⟩

variable {out : String → Prop}

namespace Surroundings.PartFor

variable {e c : Expr} {s t : Surroundings}

/-- A child sees no more than its parent. -/
theorem child (h : s.PartFor out e t) (hc : c ∈ e.children) : s.PartFor out c t :=
  ⟨h.edges, h.refs, h.root, fun k hk => h.results k (Expr.mem_walk_of_mem_children hc hk),
    fun hr => h.input (Expr.readsInput_of_mem_children hc hr), h.bindings, h.tags, h.tagConstants⟩

theorem bind (h : s.PartFor out e t) (name : String) (xs : List Float) :
    (s.bind name xs).PartFor out e (t.bind name xs) := by
  have hbindings : (s.bind name xs).bindings = (t.bind name xs).bindings := by
    simp only [Surroundings.bind, h.bindings]
  exact ⟨h.edges, h.refs, h.root, h.results, h.input, hbindings, h.tags, h.tagConstants⟩

end Surroundings.PartFor

namespace Eval

/-- The first computation gives what the second one gives, or misses a result in `out`. -/
def SameOrMisses (out : String → Prop) : EvalRelation := fun _ x y =>
  x.result = y.result ∨ ∃ k, out k ∧ x.result = .error (.missing (.resultProperty k))

theorem SameOrMisses.refl {α : Type} (x : Eval α) : SameOrMisses out α x x := Or.inl rfl

theorem sameOrMisses_compatible : Compatible (SameOrMisses out) where
  pure a := .refl _
  bind := by
    rintro α β x y f g (hsame | ⟨k, hk, hmiss⟩) hf
    · cases hx : x.result with
      | error e =>
        left
        rw [Traced.result_bind, Traced.result_bind, ← hsame, hx]
        rfl
      | ok a =>
        -- from the same value, the second steps are compared
        have hy : y.result = .ok a := hsame ▸ hx
        have hstep := hf a hx hy
        unfold SameOrMisses
        rw [Traced.result_bind, Traced.result_bind, hx, hy]
        exact hstep
    · right
      refine ⟨k, hk, ?_⟩
      rw [Traced.result_bind, hmiss]
      rfl
  need operand xs := .refl _
  numeric r := .refl _
  tell entry := .refl _

end Eval

namespace Expr

theorem partFor_compatible :
    Compatible (Eval.SameOrMisses out) fun e s t => s.PartFor out e t where
  child h _ _ hc := h.child hc
  value h := h.child (by simp [children])
  block h xs := (h.child (by simp [children])).bind _ xs
  input := by
    intro s t h
    simp only [eval, h.input (readsInput_of_capability rfl)]
    exact .refl _
  edgeConstant := by
    intro k s t h
    simp only [eval, h.edges]
    exact .refl _
  parentValue := by
    intro k s t h
    simp only [eval, h.refs]
    exact .refl _
  rootValue := by
    intro k s t h
    simp only [eval, h.root]
    exact .refl _
  resultValue := by
    intro k s t h
    simp only [eval]
    rcases h.results k (mem_walk_self _) with hsame | ⟨hk, hnone⟩
    · rw [hsame]
      exact .refl _
    · right
      exact ⟨k, hk, by rw [hnone]; rfl⟩
  hasTag := by
    intro k scope s t h
    simp only [eval, Surroundings.hasTag, h.tags, h.tagConstants]
    exact .refl _
  var := by
    intro k s t h
    simp only [eval, h.bindings]
    exact .refl _
  count := by
    intro mode e s t h
    cases mode with
    | refs =>
      simp only [Surroundings.count, h.refs]
      exact .refl _
    | edges =>
      simp only [Surroundings.count, h.edges]
      exact .refl _
    | input =>
      simp only [Surroundings.count, h.input (readsInput_of_capability rfl)]
      exact .refl _
  tagColumn := by
    intro k scope default s t h
    simp only [Surroundings.tagColumn, h.tags, h.tagConstants]

/-- **With results left out,** an expression gives what it gives with all of them, or it misses one
that it reads. -/
theorem evaluate_or_misses {e : Expr} {s : Surroundings} {results : Table Float}
    (h : s.results.Below results) {input : Option (List Float)}
    (hinput : e.readsInput = true → s.input = input) :
    (e.evaluate s).result = (e.evaluate { s with results, input }).result ∨
      ∃ k ∈ e.dependencies, k ∉ s.results ∧
        (e.evaluate s).result = .error (.missing (.resultProperty k)) := by
  have hpart : s.PartFor (fun k => k ∈ e.dependencies ∧ k ∉ s.results) e
      { s with results, input } := by
    refine ⟨rfl, rfl, rfl, fun k hk => ?_, hinput, rfl, rfl, rfl⟩
    by_cases hks : k ∈ s.results
    · exact Or.inl (h.mem hks).symm
    · exact Or.inr ⟨⟨mem_dependencies.2 hk, hks⟩, Table.get?_eq_none_iff.2 hks⟩
  rcases evaluate_related Eval.sameOrMisses_compatible partFor_compatible hpart with
    hsame | ⟨k, ⟨hk, hks⟩, hmiss⟩
  · exact Or.inl hsame
  · exact Or.inr ⟨k, hk, hks, hmiss⟩

end Expr

end ValuedGraph
