import Mathlib.Data.List.Forall2
import ValuedGraph.Proofs.Expr.Relation
import ValuedGraph.Proofs.Expr.Walk

/-!
# More values do not change a value

An expression that has a value in some surroundings has the same value where refs, root or
results have further values: what it reads, it has found. So it does not matter whether an
expression sees the results so far or all of them, provided that it has a value at all. Nor do
values matter that the expression does not name.

* `Expr.Names`: what an expression names in references to refs, to the root and to results.
* `Surroundings.Below`: surroundings that others agree with, as far as they go.
* `Surroundings.BelowFor`: the same, as far as an expression can see.
* `Expr.evaluate_of_belowFor`, `Expr.evaluate_mono`: **a value stays the same in larger
  surroundings.**
-/

namespace ValuedGraph

/-- **A table that another one agrees with,** as far as it goes. -/
def Table.Below {α : Type} (t u : Table α) : Prop := ∀ k a, t.get? k = some a → u.get? k = some a

theorem Table.Below.refl {α : Type} (t : Table α) : t.Below t := fun _ _ h => h

theorem Table.Below.mem {α : Type} {t u : Table α} (h : t.Below u) {k : String} (hk : k ∈ t) :
    u.get? k = t.get? k := by
  obtain ⟨a, ha⟩ := Table.exists_get? hk
  rw [ha, h k a ha]

/-- **A table that another one agrees with on some names,** as far as it goes. -/
def Table.BelowOn {α : Type} (t : Table α) (names : String → Prop) (u : Table α) : Prop :=
  ∀ k, names k → ∀ a, t.get? k = some a → u.get? k = some a

theorem Table.Below.on {α : Type} {t u : Table α} (h : t.Below u) (names : String → Prop) :
    t.BelowOn names u := fun k _ => h k

theorem Table.BelowOn.mono {α : Type} {t u : Table α} {names names' : String → Prop}
    (h : t.BelowOn names u) (hnames : ∀ k, names' k → names k) : t.BelowOn names' u :=
  fun k hk => h k (hnames k hk)

/-- **The properties that an expression names** in references to refs, to the root or to results
of the same node. -/
def Expr.Names (e : Expr) (k : String) : Prop :=
  .parentValue k ∈ e.walk ∨ .rootValue k ∈ e.walk ∨ .resultValue k ∈ e.walk

/-- **Surroundings that others agree with,** with further values for refs, root and results. -/
structure Surroundings.Below (s t : Surroundings) : Prop where
  edges : s.edges = t.edges
  refs : List.Forall₂ Table.Below s.refs t.refs
  root : s.root.Below t.root
  results : s.results.Below t.results
  input : s.input = t.input
  bindings : s.bindings = t.bindings
  tags : s.tags = t.tags
  tagConstants : s.tagConstants = t.tagConstants

/-- **Surroundings that others agree with, as far as an expression can see:** on the names in its
references. -/
structure Surroundings.BelowFor (e : Expr) (s t : Surroundings) : Prop where
  edges : s.edges = t.edges
  refs : List.Forall₂ (fun u v => u.BelowOn (fun k => .parentValue k ∈ e.walk) v) s.refs t.refs
  root : s.root.BelowOn (fun k => .rootValue k ∈ e.walk) t.root
  results : s.results.BelowOn (fun k => .resultValue k ∈ e.walk) t.results
  input : s.input = t.input
  bindings : s.bindings = t.bindings
  tags : s.tags = t.tags
  tagConstants : s.tagConstants = t.tagConstants

theorem Surroundings.Below.belowFor {s t : Surroundings} (h : s.Below t) (e : Expr) :
    s.BelowFor e t :=
  ⟨h.edges, h.refs.imp fun _ _ hu => hu.on _, h.root.on _, h.results.on _, h.input, h.bindings,
    h.tags, h.tagConstants⟩

/-- A child sees no more than its parent. -/
theorem Surroundings.BelowFor.child {e c : Expr} {s t : Surroundings} (h : s.BelowFor e t)
    (hc : c ∈ e.children) : s.BelowFor c t :=
  ⟨h.edges, h.refs.imp fun _ _ hu => hu.mono fun _ => Expr.mem_walk_of_mem_children hc,
    h.root.mono fun _ => Expr.mem_walk_of_mem_children hc,
    h.results.mono fun _ => Expr.mem_walk_of_mem_children hc, h.input, h.bindings, h.tags,
    h.tagConstants⟩

theorem Surroundings.BelowFor.bind {e : Expr} {s t : Surroundings} (h : s.BelowFor e t)
    (name : String) (xs : List Float) : (s.bind name xs).BelowFor e (t.bind name xs) := by
  have hbindings : (s.bind name xs).bindings = (t.bind name xs).bindings := by
    simp only [Surroundings.bind, h.bindings]
  exact ⟨h.edges, h.refs, h.root, h.results, h.input, hbindings, h.tags, h.tagConstants⟩

namespace Eval

/-- If the first computation has a value, the second one has the same. -/
def Refines : EvalRelation := fun _ x y => ∀ a, x.result = .ok a → y.result = .ok a

theorem refines_compatible : Compatible Refines where
  pure _ _ h := h
  bind := by
    intro α β x y f g hx hf b hb
    rw [Traced.result_bind] at hb ⊢
    cases hr : x.result with
    | error e => simp [hr, Except.bind] at hb
    | ok a =>
      rw [hr] at hb
      rw [hx a hr]
      exact hf a hr (hx a hr) b hb
  need _ _ _ h := h
  numeric _ _ h := h
  tell _ _ h := h

theorem refines_found {α : Type} {o o' : Option α} (h : ∀ a, o = some a → o' = some a)
    (what : Missing) : Refines α (found o what) (found o' what) := by
  intro a ha
  cases o with
  | none => simp [found, Traced.fail] at ha
  | some b =>
    rw [h b rfl]
    exact ha

/-- A column of larger tables. -/
theorem refines_column {tables tables' : List (Table Float)} {k : String}
    (h : List.Forall₂ (fun t u => ∀ a, t.get? k = some a → u.get? k = some a) tables tables')
    (what : Missing) : Refines (List Float) (column tables k what) (column tables' k what) := by
  induction h with
  | nil => exact fun _ h => h
  | cons ht _ ih =>
    unfold column at ih ⊢
    rw [List.mapM_cons, List.mapM_cons]
    refine refines_compatible.bind (refines_found ht what) fun x _ _ => ?_
    exact refines_compatible.bind ih fun xs _ _ => refines_compatible.pure _

end Eval

namespace Expr

theorem belowFor_compatible : Compatible Eval.Refines fun e s t => s.BelowFor e t where
  child h _ _ hc := h.child hc
  value h := h.child (by simp [children])
  block h xs := (h.child (by simp [children])).bind _ xs
  input := by
    intro s t h
    simp only [eval, h.input]
    exact fun _ h => h
  edgeConstant := by
    intro k s t h
    simp only [eval, h.edges]
    exact fun _ h => h
  parentValue := by
    intro k s t h
    simp only [eval]
    exact Eval.refines_column (h.refs.imp fun _ _ hu => hu k (mem_walk_self _)) _
  rootValue := by
    intro k s t h
    simp only [eval]
    exact Eval.refines_compatible.bind (Eval.refines_found (h.root k (mem_walk_self _)) _)
      fun x _ _ => Eval.refines_compatible.pure [x]
  resultValue := by
    intro k s t h
    simp only [eval]
    exact Eval.refines_compatible.bind (Eval.refines_found (h.results k (mem_walk_self _)) _)
      fun x _ _ => Eval.refines_compatible.pure [x]
  hasTag := by
    intro k scope s t h
    simp only [eval, Surroundings.hasTag, h.tags, h.tagConstants]
    exact fun _ h => h
  var := by
    intro k s t h
    simp only [eval, h.bindings]
    exact fun _ h => h
  count := by
    intro mode e s t h
    cases mode with
    | refs =>
      simp only [Surroundings.count, h.refs.length_eq]
      exact fun _ h => h
    | edges =>
      simp only [Surroundings.count, h.edges]
      exact fun _ h => h
    | input =>
      simp only [Surroundings.count, h.input]
      exact fun _ h => h
  tagColumn := by
    intro k scope default s t h
    simp only [Surroundings.tagColumn, h.tags, h.tagConstants]

/-- **A value stays the same** in surroundings that agree as far as the expression can see. -/
theorem evaluate_of_belowFor {e : Expr} {s t : Surroundings} (h : s.BelowFor e t) {xs : List Float}
    (hs : (e.evaluate s).result = .ok xs) : (e.evaluate t).result = .ok xs :=
  evaluate_related Eval.refines_compatible belowFor_compatible h xs hs

/-- **A value stays the same in larger surroundings.** -/
theorem evaluate_mono {e : Expr} {s t : Surroundings} (h : s.Below t) {xs : List Float}
    (hs : (e.evaluate s).result = .ok xs) : (e.evaluate t).result = .ok xs :=
  evaluate_of_belowFor (h.belowFor e) hs

end Expr

end ValuedGraph
