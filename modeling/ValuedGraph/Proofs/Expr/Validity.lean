import ValuedGraph.Expr.Validation
import ValuedGraph.Proofs.Expr.Relation
import ValuedGraph.Proofs.Trace

/-!
# Valid expressions find what they read

Validation walks an expression along `children` and collects the names that bindings bring
into scope; evaluation follows each form's own recipe, with a changing set of bound arrays and
with defaults that it may never reach. Both agree on what has to be there.

* `Surroundings.Meets`: surroundings that provide everything a place permits.
* `Expr.ownViolation_eq_none`, `Expr.violation_child`, `Expr.violation_bind`: what validation
  has checked of an expression and handed down to its children.
* `Expr.evaluate_finds`: **a valid expression never misses anything** in surroundings that
  meet its permissions.
* `Expr.evaluate_of_validate`: so it has a value, or an array in it is empty, or arithmetic
  fails.
-/

namespace ValuedGraph

/-- **Surroundings that provide what a place permits:** every edge has the declared constants
and tells whether it is implied, refs and root have every property, and so on. -/
structure Surroundings.Meets (s : Surroundings) (p : Permissions) : Prop where
  edges : ∀ t ∈ s.edges, ∀ k, k ∈ p.constants ∨ k = impliedConstant → k ∈ t
  refs : ∀ t ∈ s.refs, ∀ k ∈ p.properties, k ∈ t
  root : ∀ k ∈ p.properties, k ∈ s.root
  /-- the properties that a result reference may read, or else all of them, have results -/
  results : ∀ k ∈ p.dependencies.getD p.properties, k ∈ s.results
  tags : ∀ k ∈ p.tags, k ∈ s.tagConstants
  input : Capability.input ∉ p.disallowed → s.input.isSome

/-- Binding a name does not change what else is provided. -/
theorem Surroundings.Meets.bind {s : Surroundings} {p : Permissions} (h : s.Meets p)
    (name : String) (xs : List Float) : (s.bind name xs).Meets p :=
  ⟨h.edges, h.refs, h.root, h.results, h.tags, h.input⟩

/-- **A computation that misses nothing.** It may still fail over an empty array or over
arithmetic. -/
def Eval.Finds {α : Type} (x : Eval α) : Prop := ∀ what, x.result ≠ .error (.missing what)

namespace Eval

theorem finds_pure {α : Type} (a : α) : Finds (pure a) := by
  intro what h
  simp at h

theorem finds_found {α : Type} {o : Option α} (h : o.isSome) (what : Missing) :
    Finds (found o what) := by
  obtain ⟨a, rfl⟩ := Option.isSome_iff_exists.1 h
  exact finds_pure a

theorem finds_need (operand : Operand) (xs : List Float) : Finds (need operand xs) := by
  unfold need
  split
  · intro what h
    simp [Traced.fail] at h
  · exact finds_pure xs

theorem finds_numeric {α : Type} (r : Except NumericFault α) : Finds (numeric r) := by
  intro what h
  obtain ⟨fault, hfault⟩ := numeric_error h
  cases hfault

theorem finds_bind {α β : Type} {x : Eval α} {f : α → Eval β} (hx : Finds x)
    (hf : ∀ a, x.result = .ok a → Finds (f a)) : Finds (x >>= f) := by
  intro what h
  rw [Traced.result_bind] at h
  cases hr : x.result with
  | ok a =>
    rw [hr] at h
    exact hf a hr what h
  | error e =>
    rw [hr] at h
    have he : e = .missing what := by simpa [Except.bind] using h
    exact hx what (he ▸ hr)

theorem finds_mapM {α β : Type} {f : α → Eval β} {l : List α} (h : ∀ a ∈ l, Finds (f a)) :
    Finds (l.mapM f) := by
  induction l with
  | nil => exact finds_pure []
  | cons a l ih =>
    rw [List.mapM_cons]
    refine finds_bind (h a (by simp)) fun b _ => ?_
    refine finds_bind (ih fun a ha => h a (by simp [ha])) fun bs _ => finds_pure _

/-- A column is complete if every table has the name. -/
theorem finds_column {tables : List (Table Float)} {k : String} (h : ∀ t ∈ tables, k ∈ t)
    (what : Missing) : Finds (column tables k what) :=
  finds_mapM fun t ht => finds_found (Table.get?_isSome_iff.2 (h t ht)) what

/-- Equal computations that miss nothing. -/
def BothFind : EvalRelation := fun _ x y => x = y ∧ Finds x

theorem bothFind_compatible : Compatible BothFind where
  pure a := ⟨rfl, finds_pure a⟩
  bind := by
    rintro α β x y f g ⟨rfl, hx⟩ hf
    have hbind : Finds (x >>= f) := finds_bind hx fun a ha => (hf a ha ha).2
    exact ⟨Traced.bind_congr fun a ha => (hf a ha ha).1, hbind⟩
  need operand xs := ⟨rfl, finds_need operand xs⟩
  numeric r := ⟨rfl, finds_numeric r⟩
  tell entry := ⟨rfl, by intro what h; simp [Traced.tell] at h⟩

end Eval

theorem unlessAllowed_eq_none {allowed : Bool} {v : Violation} :
    unlessAllowed allowed v = none ↔ allowed = true := by
  cases allowed <;> simp [unlessAllowed]

namespace Expr

variable {p : Permissions} {bound : List String} {path : String} {e : Expr}

theorem violationList_eq_none {l : List Expr} : ∀ {i : Nat}, violationList p bound path i l = none →
    ∀ c ∈ l, ∃ path', violation p bound path' c = none := by
  induction l with
  | nil => intro i _ c hc; simp at hc
  | cons d l ih =>
    intro i h c hc
    simp only [violationList, Option.orElse_eq_orElse, Option.orElse_eq_or, Option.or_eq_none_iff] at h
    rcases List.mem_cons.1 hc with rfl | hc
    · exact ⟨_, h.1⟩
    · exact ih h.2 c hc

theorem violationOption_eq_none {o : Option Expr} (h : violationOption p bound path o = none) :
    ∀ c ∈ o.toList, violation p bound path c = none := by
  intro c hc
  cases o with
  | none => simp at hc
  | some e =>
    simp only [Option.toList_some, List.mem_singleton] at hc
    subst hc
    simpa only [violationOption] using h

/-- **An expression without violation** does nothing wrong itself. -/
theorem ownViolation_eq_none (h : violation p bound path e = none) :
    ownViolation p bound e = none := by
  unfold violation at h
  simp only [Option.orElse_eq_orElse, Option.orElse_eq_or, Option.or_eq_none_iff,
    Option.map_eq_none_iff] at h
  exact h.1

/-- **Children of an expression without violation** have none, with the same names bound, if
the expression binds nothing. -/
theorem violation_child (h : violation p bound path e = none) (hb : ∀ name v b, e ≠ bind name v b) :
    ∀ c ∈ e.children, ∃ path', violation p bound path' c = none := by
  intro c hc
  -- one case for each shape of the children
  cases e <;> unfold violation at h <;>
    simp only [Option.orElse_eq_orElse, Option.orElse_eq_or, Option.or_eq_none_iff] at h <;>
    simp only [children, List.mem_cons, List.not_mem_nil, or_false, List.mem_append] at hc
  case combine | unary | lengthOf | log =>
    subst hc
    exact ⟨_, h.2⟩
  case arithmetic | compare =>
    rcases hc with rfl | rfl
    · exact ⟨_, h.2.1⟩
    · exact ⟨_, h.2.2⟩
  case gradient | choose | rangeNormalize | percentDenormalize =>
    rcases hc with rfl | rfl | rfl
    · exact ⟨_, h.2.1⟩
    · exact ⟨_, h.2.2.1⟩
    · exact ⟨_, h.2.2.2⟩
  case colorRGB =>
    rcases hc with (rfl | rfl | rfl) | hc
    · exact ⟨_, h.2.1⟩
    · exact ⟨_, h.2.2.1⟩
    · exact ⟨_, h.2.2.2.1⟩
    · exact ⟨_, violationOption_eq_none h.2.2.2.2 c hc⟩
  case filter =>
    rcases hc with (rfl | rfl) | hc
    · exact ⟨_, h.2.1⟩
    · exact ⟨_, h.2.2.1⟩
    · exact ⟨_, violationOption_eq_none h.2.2.2 c hc⟩
  case clip =>
    rcases hc with (rfl | hc) | hc
    · exact ⟨_, h.2.1⟩
    · exact ⟨_, violationOption_eq_none h.2.2.1 c hc⟩
    · exact ⟨_, violationOption_eq_none h.2.2.2 c hc⟩
  case collect => exact violationList_eq_none h.2 c hc
  case tagConstant => exact ⟨_, violationOption_eq_none h.2 c hc⟩
  case bind name v b => exact absurd rfl (hb name v b)

/-- **The two parts of a binding without violation** have none: the value under the names
bound so far, the block under one more. -/
theorem violation_bind {name : String} {v b : Expr}
    (h : violation p bound path (bind name v b) = none) :
    (∃ path', violation p bound path' v = none) ∧
      ∃ path', violation p (bound ++ [name]) path' b = none := by
  unfold violation at h
  simp only [Option.orElse_eq_orElse, Option.orElse_eq_or, Option.or_eq_none_iff] at h
  exact ⟨⟨_, h.2.1⟩, ⟨_, h.2.2⟩⟩

/-- The capability that an expression needs is not lacking. -/
theorem capability_allowed (h : ownViolation p bound e = none) {c : Capability}
    (hc : e.capability = some c) : c ∉ p.disallowed := by
  simp only [ownViolation, Option.orElse_eq_orElse, Option.orElse_eq_or, Option.or_eq_none_iff,
    lackedCapability, hc, unlessAllowed_eq_none] at h
  simpa using h.1

/-- What an expression refers to by name is there for its place. -/
theorem reference_known (h : ownViolation p bound e = none) : unknownReference p e = none := by
  simp only [ownViolation, Option.orElse_eq_orElse, Option.orElse_eq_or, Option.or_eq_none_iff] at h
  exact h.2.1

/-- A variable that is read is bound. -/
theorem scope_respected (h : ownViolation p bound e = none) : scopeViolation bound e = none := by
  simp only [ownViolation, Option.orElse_eq_orElse, Option.orElse_eq_or, Option.or_eq_none_iff] at h
  exact h.2.2

/-- **An expression at a place that permits it,** in surroundings that meet the permissions
and bind the names in scope. -/
def PermittedIn (p : Permissions) (e : Expr) (s t : Surroundings) : Prop :=
  s = t ∧ s.Meets p ∧ ∃ bound path, violation p bound path e = none ∧ ∀ k ∈ bound, k ∈ s.bindings

theorem permittedIn_compatible (p : Permissions) :
    Compatible Eval.BothFind (PermittedIn p) where
  child := by
    rintro e s t ⟨rfl, hs, bound, path, hv, hbound⟩ hb c hc
    obtain ⟨path', hv'⟩ := violation_child hv hb c hc
    exact ⟨rfl, hs, bound, path', hv', hbound⟩
  value := by
    rintro name v b s t ⟨rfl, hs, bound, path, hv, hbound⟩
    obtain ⟨path', hv'⟩ := (violation_bind hv).1
    exact ⟨rfl, hs, bound, path', hv', hbound⟩
  block := by
    rintro name v b s t ⟨rfl, hs, bound, path, hv, hbound⟩ xs
    obtain ⟨path', hv'⟩ := (violation_bind hv).2
    refine ⟨rfl, hs.bind name xs, bound ++ [name], path', hv', ?_⟩
    -- the block may read the new name and all names that were bound around the binding
    intro k hk
    rw [← Table.get?_isSome_iff, Surroundings.bind, Table.get?_insert]
    rcases List.mem_append.1 hk with hk | hk
    · split
      · rfl
      · exact Table.get?_isSome_iff.2 (hbound k hk)
    · simp_all
  input := by
    rintro s t ⟨rfl, hs, bound, path, hv, -⟩
    have hin := hs.input (capability_allowed (ownViolation_eq_none hv) rfl)
    simp only [eval]
    exact ⟨rfl, Eval.finds_found hin .input⟩
  edgeConstant := by
    rintro k s t ⟨rfl, hs, bound, path, hv, -⟩
    have hk := reference_known (ownViolation_eq_none hv)
    simp only [unknownReference, unlessAllowed_eq_none, Bool.or_eq_true, List.contains_iff_mem,
      beq_iff_eq] at hk
    simp only [eval]
    exact ⟨rfl, Eval.finds_column (fun t ht => hs.edges t ht k hk) _⟩
  parentValue := by
    rintro k s t ⟨rfl, hs, bound, path, hv, -⟩
    have hk := reference_known (ownViolation_eq_none hv)
    simp only [unknownReference, unlessAllowed_eq_none, List.contains_iff_mem] at hk
    simp only [eval]
    exact ⟨rfl, Eval.finds_column (fun t ht => hs.refs t ht k hk) _⟩
  rootValue := by
    rintro k s t ⟨rfl, hs, bound, path, hv, -⟩
    have hk := reference_known (ownViolation_eq_none hv)
    simp only [unknownReference, unlessAllowed_eq_none, List.contains_iff_mem] at hk
    have hroot := Table.get?_isSome_iff.2 (hs.root k hk)
    simp only [eval]
    exact ⟨rfl, Eval.finds_bind (Eval.finds_found hroot _) fun x _ => Eval.finds_pure [x]⟩
  resultValue := by
    rintro k s t ⟨rfl, hs, bound, path, hv, -⟩
    have hk := reference_known (ownViolation_eq_none hv)
    simp only [unknownReference, Option.orElse_eq_orElse, Option.orElse_eq_or,
      Option.or_eq_none_iff, unlessAllowed_eq_none, List.contains_iff_mem] at hk
    -- a place without a list of dependencies may read the results of all properties
    have hdep : k ∈ p.dependencies.getD p.properties := by
      cases hd : p.dependencies with
      | none => simpa using hk.1
      | some names => simpa [hd] using hk.2
    have hresult := Table.get?_isSome_iff.2 (hs.results k hdep)
    simp only [eval]
    exact ⟨rfl, Eval.finds_bind (Eval.finds_found hresult _) fun x _ => Eval.finds_pure [x]⟩
  hasTag := by
    rintro k scope s t ⟨rfl, hs, bound, path, hv, -⟩
    have hk := reference_known (ownViolation_eq_none hv)
    simp only [unknownReference, unlessAllowed_eq_none, List.contains_iff_mem] at hk
    have htag := Table.get?_isSome_iff.2 (hs.tags k hk)
    simp only [eval, Surroundings.hasTag]
    refine ⟨rfl, Eval.finds_bind ?_ fun x _ => Eval.finds_pure [x]⟩
    exact Eval.finds_bind (Eval.finds_found htag _) fun _ _ => Eval.finds_pure _
  var := by
    rintro k s t ⟨rfl, hs, bound, path, hv, hbound⟩
    have hk := scope_respected (ownViolation_eq_none hv)
    simp only [scopeViolation, unlessAllowed_eq_none, List.contains_iff_mem] at hk
    simp only [eval]
    exact ⟨rfl, Eval.finds_found (Table.get?_isSome_iff.2 (hbound k hk)) _⟩
  count := by
    rintro mode e s t ⟨rfl, hs, bound, path, hv, -⟩
    refine ⟨rfl, ?_⟩
    cases mode with
    | refs => exact Eval.finds_pure _
    | edges => exact Eval.finds_pure _
    | input =>
      have hin := hs.input (capability_allowed (ownViolation_eq_none hv) rfl)
      exact Eval.finds_bind (Eval.finds_found hin _) fun xs _ => Eval.finds_pure xs.length
  tagColumn := by
    rintro k scope default s t ⟨rfl, -⟩
    rfl

/-- **A valid expression never misses anything** in surroundings that meet its permissions. -/
theorem evaluate_finds {s : Surroundings} (hs : s.Meets p) (hv : e.validate p path = .ok ()) :
    (e.evaluate s).Finds := by
  have hnone : violation p [] path e = none := by
    unfold validate at hv
    split at hv
    · assumption
    · cases hv
  have hr : PermittedIn p e s s := ⟨rfl, hs, [], path, hnone, by simp⟩
  exact (evaluate_related Eval.bothFind_compatible (permittedIn_compatible p) hr).2

/-- A value of a whole expression is not empty. -/
theorem evaluate_ne_nil {s : Surroundings} {xs : List Float} (h : (e.evaluate s).result = .ok xs) :
    xs ≠ [] := by
  rintro rfl
  simp only [evaluate, Traced.result_bind] at h
  cases he : (e.eval s).result with
  | error f => simp [he, Except.bind] at h
  | ok ys =>
    simp only [he, Except.bind, Eval.need] at h
    split at h
    · simp [Traced.fail] at h
    · simp_all

/-- **Validation is sound for evaluation.** In surroundings that meet what its place permits, a
valid expression has a value that is not empty, or some array in it is empty, or arithmetic
fails; nothing that it reads is missing. -/
theorem evaluate_of_validate {s : Surroundings} (hs : s.Meets p)
    (hv : e.validate p path = .ok ()) :
    (∃ xs, (e.evaluate s).result = .ok xs ∧ xs ≠ []) ∨
      (∃ operand, (e.evaluate s).result = .error (.empty operand)) ∨
      ∃ fault, (e.evaluate s).result = .error (.numeric fault) := by
  have hfinds := evaluate_finds hs hv
  cases hr : (e.evaluate s).result with
  | ok xs => exact Or.inl ⟨xs, rfl, evaluate_ne_nil hr⟩
  | error failure =>
    cases failure with
    | missing what => exact absurd hr (hfinds what)
    | empty operand => exact Or.inr (Or.inl ⟨operand, rfl⟩)
    | numeric fault => exact Or.inr (Or.inr ⟨fault, rfl⟩)

/-- A binding around a sum, in front of one edge. -/
theorem evaluate_of_validate_binding :
    let e : Expr := bind "x" (parentValue "a")
      (arithmetic .add (var "x") (filter (edgeConstant "w") (resultValue "a") none))
    let p : Permissions :=
      { properties := ["a", "b"], constants := ["w"], dependencies := some ["a"]
        disallowed := [.input] }
    let s : Surroundings :=
      { edges := [.ofList [("w", 2.0), (impliedConstant, 0.0)]]
        refs := [.ofList [("a", 1.0), ("b", 4.0)]]
        root := .ofList [("a", 0.0), ("b", 0.0)]
        results := .ofList [("a", 3.0)] }
    e.validate p "value" = .ok () ∧
      ((∃ xs, (e.evaluate s).result = .ok xs ∧ xs ≠ []) ∨
        (∃ operand, (e.evaluate s).result = .error (.empty operand)) ∨
        ∃ fault, (e.evaluate s).result = .error (.numeric fault)) := by
  intro e p s
  have hv : e.validate p "value" = .ok () := by rfl
  have hs : s.Meets p := by
    constructor
    · intro t ht k hk
      obtain rfl := List.mem_singleton.1 ht
      rcases hk with hk | rfl
      · obtain rfl := List.mem_singleton.1 hk
        decide
      · decide
    · intro t ht k hk
      obtain rfl := List.mem_singleton.1 ht
      revert k
      decide
    · decide
    · decide
    · decide
    · exact fun h => absurd (List.mem_singleton.2 rfl) h
  exact ⟨hv, evaluate_of_validate hs hv⟩

end Expr

end ValuedGraph
