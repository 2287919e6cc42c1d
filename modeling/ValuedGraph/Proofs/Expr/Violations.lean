import ValuedGraph.Proofs.Expr.Validity
import ValuedGraph.Proofs.Expr.Walk

/-!
# Validity, expression by expression

Whether there is a violation in an expression only depends on what is wrong with each expression
in it, not on its place. So validity goes over to other permissions under which no expression of
it does anything wrong, and what validity says of an expression it says of all below it.

* `Expr.ownViolation_of_mem_walk`: below an expression without violation nothing is wrong.
* `Expr.violation_eq_none`, `Expr.violation_bind_eq_none`: an expression has no violation if
  nothing is wrong with it and its children have none.
* `Expr.violation_congr`: **validity under other permissions.**
-/

namespace ValuedGraph

namespace Expr

variable {p p' : Permissions} {bound : List String} {path : String} {e : Expr}

theorem validate_ok : e.validate p path = .ok () ↔ violation p [] path e = none := by
  unfold validate
  cases violation p [] path e <;> simp

/-- **Below an expression without violation** nothing is wrong, under some names bound there. -/
theorem ownViolation_of_mem_walk (h : violation p bound path e = none) :
    ∀ x ∈ e.walk, ∃ bound', ownViolation p bound' x = none := by
  have hall : ∀ x ∈ e.walk, ∃ bound' path', violation p bound' path' x = none := by
    refine forall_mem_walk (fun e he c hc => ?_) e ⟨bound, path, h⟩
    obtain ⟨bound, path, he⟩ := he
    by_cases hbind : ∃ name v b, e = bind name v b
    · obtain ⟨name, v, b, rfl⟩ := hbind
      obtain ⟨⟨pathv, hv⟩, pathb, hb⟩ := violation_bind he
      simp only [children, List.mem_cons, List.not_mem_nil, or_false] at hc
      rcases hc with rfl | rfl
      · exact ⟨bound, pathv, hv⟩
      · exact ⟨bound ++ [name], pathb, hb⟩
    · have hb : ∀ name v b, e ≠ bind name v b := fun name v b he => hbind ⟨name, v, b, he⟩
      obtain ⟨path', hc⟩ := violation_child he hb c hc
      exact ⟨bound, path', hc⟩
  intro x hx
  obtain ⟨bound', path', hx⟩ := hall x hx
  exact ⟨bound', ownViolation_eq_none hx⟩

/-- **The results that a valid expression refers to** are among the dependencies of its place. -/
theorem mem_of_violation {dependencies : List String} (hdep : p.dependencies = some dependencies)
    (h : violation p bound path e = none) {k : String} (hk : resultValue k ∈ e.walk) :
    k ∈ dependencies := by
  obtain ⟨bound', hown⟩ := ownViolation_of_mem_walk h _ hk
  have hknown := reference_known hown
  simp only [unknownReference, Option.orElse_eq_orElse, Option.orElse_eq_or,
    Option.or_eq_none_iff, unlessAllowed_eq_none, hdep, Option.all_some,
    List.contains_iff_mem] at hknown
  exact hknown.2

theorem violationList_of_forall {l : List Expr}
    (h : ∀ c ∈ l, ∀ path, violation p bound path c = none) :
    ∀ i, violationList p bound path i l = none := by
  induction l with
  | nil =>
    intro i
    rfl
  | cons c l ih =>
    intro i
    simp only [violationList, h c (by simp), ih fun d hd => h d (by simp [hd])]
    rfl

theorem violationOption_of_forall {o : Option Expr}
    (h : ∀ c ∈ o.toList, ∀ path, violation p bound path c = none) :
    violationOption p bound path o = none := by
  cases o with
  | none => rfl
  | some e =>
    simp only [violationOption]
    exact h e (by simp) path

/-- **An expression has no violation** if nothing is wrong with it and its children have none. -/
theorem violation_eq_none (hown : ownViolation p bound e = none) (hb : ∀ name v b, e ≠ bind name v b)
    (hc : ∀ c ∈ e.children, ∀ path, violation p bound path c = none) :
    violation p bound path e = none := by
  -- one case for each shape of the children
  cases e <;> unfold violation <;>
    simp only [hown, Option.map_none, Option.orElse_eq_orElse, Option.orElse_eq_or,
      Option.or_eq_none_iff, true_and] <;>
    simp only [children, List.mem_cons, List.not_mem_nil, or_false, List.mem_append,
      forall_eq_or_imp, forall_eq] at hc
  case combine | unary | lengthOf | log => exact hc _
  case arithmetic | compare => exact ⟨hc.1 _, hc.2 _⟩
  case gradient | choose | rangeNormalize | percentDenormalize => exact ⟨hc.1 _, hc.2.1 _, hc.2.2 _⟩
  case colorRGB =>
    exact ⟨hc _ (by simp) _, hc _ (by simp) _, hc _ (by simp) _,
      violationOption_of_forall fun c hm => hc c (by simp_all)⟩
  case filter =>
    exact ⟨hc _ (by simp) _, hc _ (by simp) _,
      violationOption_of_forall fun c hm => hc c (by simp_all)⟩
  case clip =>
    exact ⟨hc _ (by simp) _, violationOption_of_forall fun c hm => hc c (by simp_all),
      violationOption_of_forall fun c hm => hc c (by simp_all)⟩
  case collect => exact violationList_of_forall hc _
  case tagConstant => exact violationOption_of_forall hc
  case bind name v b => exact absurd rfl (hb name v b)

/-- A binding has no violation if nothing is wrong with it and its two parts have none. -/
theorem violation_bind_eq_none {name : String} {v b : Expr}
    (hown : ownViolation p bound (bind name v b) = none)
    (hv : ∀ path, violation p bound path v = none)
    (hb : ∀ path, violation p (bound ++ [name]) path b = none) :
    violation p bound path (bind name v b) = none := by
  unfold violation
  simp only [hown, hv, hb]
  rfl

/-- **Validity goes over to permissions under which nothing is wrong** that is not wrong already,
and to all places. -/
theorem violation_congr (h : ∀ bound e, ownViolation p bound e = none → ownViolation p' bound e = none) :
    ∀ {bound path}, violation p bound path e = none → ∀ path', violation p' bound path' e = none := by
  induction e using children_induction with
  | h e ih =>
    intro bound path he path'
    have hown := h bound e (ownViolation_eq_none he)
    by_cases hbind : ∃ name v b, e = bind name v b
    · obtain ⟨name, v, b, rfl⟩ := hbind
      obtain ⟨⟨pathv, hv⟩, pathb, hb⟩ := violation_bind he
      exact violation_bind_eq_none hown (ih v (by simp [children]) hv) (ih b (by simp [children]) hb)
    · have hb : ∀ name v b, e ≠ bind name v b := fun name v b he => hbind ⟨name, v, b, he⟩
      refine violation_eq_none hown hb fun c hc => ?_
      obtain ⟨pathc, hvc⟩ := violation_child he hb c hc
      exact ih c hc hvc

end Expr

end ValuedGraph
