import ValuedGraph.Proofs.Expr.Needs

/-!
# Bound variables

A binding evaluates its value once and its block under the name. That comes to the same as to write
the array of the value in the place of the variable, wherever the block reads it. A binding of the
same name inside the block hides the variable from its own block, not from its own value.

* `Expr.subst`: **an expression with an array written for a variable.**
* `Expr.Free`: **the variables that an expression reads from around it.**
* `Expr.evaluate_of_free`: only these make a difference to an evaluation.
* `Expr.eval_subst`: an array that is written for a variable, and one that is bound to it.
* `Expr.evaluate_bind`: **a binding is a substitution.**
-/

namespace ValuedGraph

namespace Expr

mutual
/-- **An expression with an array written for a variable.** The block of a binding of the same name
reads another variable, so it stays as it is. -/
def subst (x : String) (a : List Float) : Expr → Expr
  | var name => if name = x then literal a else var name
  | bind name value block =>
    bind name (subst x a value) (if name = x then block else subst x a block)
  | literal values => literal values
  | input => input
  | edgeConstant name => edgeConstant name
  | parentValue property => parentValue property
  | rootValue property => rootValue property
  | resultValue property => resultValue property
  | colorLiteral text packed => colorLiteral text packed
  | hasTag tag scope => hasTag tag scope
  | combine c value => combine c (subst x a value)
  | lengthOf mode value => lengthOf mode (subst x a value)
  | log value label => log (subst x a value) label
  | colorRGB red green blue alpha =>
    colorRGB (subst x a red) (subst x a green) (subst x a blue) (substOption x a alpha)
  | gradient progress start stop =>
    gradient (subst x a progress) (subst x a start) (subst x a stop)
  | arithmetic op l r => arithmetic op (subst x a l) (subst x a r)
  | compare c l r => compare c (subst x a l) (subst x a r)
  | unary op e => unary op (subst x a e)
  | choose condition yes no => choose (subst x a condition) (subst x a yes) (subst x a no)
  | filter condition value default =>
    filter (subst x a condition) (subst x a value) (substOption x a default)
  | clip value low high => clip (subst x a value) (substOption x a low) (substOption x a high)
  | rangeNormalize value low high =>
    rangeNormalize (subst x a value) (subst x a low) (subst x a high)
  | percentDenormalize value low high =>
    percentDenormalize (subst x a value) (subst x a low) (subst x a high)
  | collect items => collect (substList x a items)
  | tagConstant name scope default => tagConstant name scope (substOption x a default)

/-- An optional expression with an array written for a variable. -/
def substOption (x : String) (a : List Float) : Option Expr → Option Expr
  | none => none
  | some e => some (subst x a e)

/-- A list of expressions with an array written for a variable. -/
def substList (x : String) (a : List Float) : List Expr → List Expr
  | [] => []
  | e :: rest => subst x a e :: substList x a rest
end

/-- **A variable that an expression reads from around it.** A binding reads what its value reads, and
what its block reads under other names than its own. -/
inductive Free (k : String) : Expr → Prop
  | var : Free k (var k)
  | child {e c : Expr} (he : ∀ name v b, e ≠ bind name v b) (hc : c ∈ e.children) (h : Free k c) :
      Free k e
  | value {name : String} {v b : Expr} (h : Free k v) : Free k (bind name v b)
  | block {name : String} {v b : Expr} (hname : k ≠ name) (h : Free k b) : Free k (bind name v b)

variable {x k : String} {a : List Float} {e : Expr} {s t : Surroundings}

/-! ## Free variables -/

theorem free_var {name : String} : (var name).Free k ↔ k = name := by
  constructor
  · intro h
    cases h with
    | var => rfl
    | child _ hc _ => simp [children] at hc
  · rintro rfl
    exact .var

theorem free_bind {name : String} {v b : Expr} :
    (bind name v b).Free k ↔ v.Free k ∨ k ≠ name ∧ b.Free k := by
  constructor
  · intro h
    cases h with
    | child he _ _ => exact absurd rfl (he name v b)
    | value h => exact Or.inl h
    | block hname h => exact Or.inr ⟨hname, h⟩
  · rintro (h | ⟨hname, h⟩)
    · exact .value h
    · exact .block hname h

/-- Any other form reads what its children read. -/
theorem free_iff_children (hvar : ∀ name, e ≠ var name) (hbind : ∀ name v b, e ≠ bind name v b) :
    e.Free k ↔ ∃ c ∈ e.children, c.Free k := by
  constructor
  · intro h
    cases h with
    | var => exact absurd rfl (hvar k)
    | child _ hc h => exact ⟨_, hc, h⟩
    | value | block => exact absurd rfl (hbind _ _ _)
  · rintro ⟨c, hc, h⟩
    exact .child hbind hc h

/-- **Surroundings that differ in bound variables only,** and not in those that an expression
reads. -/
structure AgreeOnFree (e : Expr) (s t : Surroundings) : Prop where
  others : { s with bindings := t.bindings } = t
  bindings : ∀ k, e.Free k → s.bindings.get? k = t.bindings.get? k

theorem agreeOnFree_compatible : Compatible Eval.Same AgreeOnFree where
  child h he c hc := ⟨h.others, fun k hk => h.bindings k (.child he hc hk)⟩
  value h := ⟨h.others, fun k hk => h.bindings k (.value hk)⟩
  block := by
    intro name v b s t h xs
    refine ⟨?_, fun k hk => ?_⟩
    · rw [← h.others]
      rfl
    · simp only [Surroundings.bind, Table.get?_insert]
      split
      · rfl
      · rename_i hname
        exact h.bindings k (.block hname hk)
  input h := by
    rw [← h.others]
    rfl
  edgeConstant h := by
    rw [← h.others]
    rfl
  parentValue h := by
    rw [← h.others]
    rfl
  rootValue h := by
    rw [← h.others]
    rfl
  resultValue h := by
    rw [← h.others]
    rfl
  hasTag h := by
    rw [← h.others]
    rfl
  var := by
    intro k s t h
    simp only [eval, h.bindings k .var, Eval.Same]
  count h := by
    rw [← h.others]
    rfl
  tagColumn h := by
    rw [← h.others]
    rfl

/-- **Variables that an expression does not read from around it** make no difference to what it
computes. -/
theorem eval_of_free (h : e.AgreeOnFree s t) : eval e s = eval e t :=
  eval_related Eval.same_compatible agreeOnFree_compatible e s t h

theorem evaluate_of_free (h : e.AgreeOnFree s t) : e.evaluate s = e.evaluate t :=
  evaluate_related Eval.same_compatible agreeOnFree_compatible h

/-! ## Substitution -/

theorem substOption_eq (x : String) (a : List Float) (o : Option Expr) :
    substOption x a o = o.map (subst x a) := by
  cases o <;> rfl

theorem substList_eq (x : String) (a : List Float) (l : List Expr) :
    substList x a l = l.map (subst x a) := by
  induction l with
  | nil => rfl
  | cons e l ih => rw [substList, ih, List.map_cons]

theorem children_subst (hbind : ∀ name v b, e ≠ bind name v b) :
    (e.subst x a).children = e.children.map (subst x a) := by
  cases e with
  | var name =>
    unfold subst
    split <;> rfl
  | bind name v b => exact absurd rfl (hbind name v b)
  | _ => simp [subst, children, substOption_eq, substList_eq, Option.toList_map]

theorem exists_free_map_subst {l : List Expr} (h : ∀ c ∈ l, (c.subst x a).Free k ↔ c.Free k ∧ k ≠ x) :
    (∃ c ∈ l.map (subst x a), c.Free k) ↔ (∃ c ∈ l, c.Free k) ∧ k ≠ x := by
  constructor
  · rintro ⟨_, hmem, hfree⟩
    obtain ⟨c, hc, rfl⟩ := List.mem_map.1 hmem
    obtain ⟨hfree, hk⟩ := (h c hc).1 hfree
    exact ⟨⟨c, hc, hfree⟩, hk⟩
  · rintro ⟨⟨c, hc, hfree⟩, hk⟩
    exact ⟨_, List.mem_map_of_mem hc, (h c hc).2 ⟨hfree, hk⟩⟩

/-- **The variable is gone,** and the others stay. -/
theorem free_subst (e : Expr) : (e.subst x a).Free k ↔ e.Free k ∧ k ≠ x := by
  induction e using children_induction with
  | h e ih =>
    cases e with
    | var name =>
      unfold subst
      split
      · rename_i hname
        rw [free_iff_children (by simp) (by simp), free_var]
        simp only [children, List.not_mem_nil, false_and, exists_false, false_iff, not_and,
          not_not]
        exact fun hk => hk.trans hname
      · rename_i hname
        rw [free_var]
        exact ⟨fun hk => ⟨hk, fun hx => hname (hk.symm.trans hx)⟩, And.left⟩
    | bind name v b =>
      have hv := ih v (by simp [children])
      have hb := ih b (by simp [children])
      unfold subst
      split
      · -- the block reads the variable under the name of the binding, if at all
        rename_i hname
        rw [free_bind, free_bind, hv, hname]
        tauto
      · rename_i hname
        rw [free_bind, free_bind, hv, hb]
        have hother : k ≠ name ∨ k ≠ x := by
          by_contra h
          exact hname (by grind)
        tauto
    | _ =>
      rw [free_iff_children (by simp [subst]) (by simp [subst]),
        free_iff_children (by simp) (by simp), children_subst (by simp)]
      exact exists_free_map_subst ih

/-- A name that is bound twice has the later array. -/
theorem bind_bind_self (s : Surroundings) (x : String) (xs ys : List Float) :
    (s.bind x xs).bind x ys = s.bind x ys := by
  have hbindings : (s.bindings.insert x xs).insert x ys = s.bindings.insert x ys := by
    refine Table.ext_get? ?_ fun k => ?_
    · rw [Table.keys_insert, if_pos (Table.mem_insert.2 (Or.inl rfl)), Table.keys_insert,
        Table.keys_insert]
    · simp only [Table.get?_insert]
      split <;> rfl
  simp only [Surroundings.bind, hbindings]

/-- Two names may be bound in either order. -/
theorem eval_bind_comm {name : String} (hname : name ≠ x) (e : Expr) (s : Surroundings)
    (xs ys : List Float) :
    eval e ((s.bind name ys).bind x xs) = eval e ((s.bind x xs).bind name ys) := by
  refine eval_of_free ⟨rfl, fun k _ => ?_⟩
  simp only [Surroundings.bind, Table.get?_insert]
  by_cases hk : k = x
  · rw [if_pos hk, if_neg fun h : k = name => hname (h.symm.trans hk), if_pos hk]
  · rw [if_neg hk, if_neg hk]

variable (x a)

mutual

/-- **An array that is written for a variable,** and one that is bound to it, make for the same
computation. -/
theorem eval_subst : ∀ (e : Expr) (s : Surroundings), eval (subst x a e) s = eval e (s.bind x a)
  | .var k, s => by
    simp only [subst]
    split
    · rename_i hk
      simp only [eval, Surroundings.bind, hk, Table.get?_insert_self]
      rfl
    · rename_i hk
      simp only [eval, Surroundings.bind, Table.get?_insert_of_ne _ _ hk]
  | .bind k v b, s => by
    simp only [subst, eval, eval_subst v]
    congr 1
    funext ys
    split
    · -- the array is hidden from the block in both
      rename_i hk
      rw [hk, bind_bind_self]
    · rename_i hk
      rw [eval_subst b, eval_bind_comm hk]
  | .literal _, s | .input, s | .edgeConstant _, s | .parentValue _, s | .rootValue _, s
  | .resultValue _, s | .colorLiteral _ _, s | .hasTag _ _, s => rfl
  | .combine c e, s => by
    simp only [subst, eval, eval_subst e]
  | .colorRGB red green blue alpha, s => by
    simp only [subst, eval, eval_subst red, eval_subst green, eval_subst blue,
      evalOption_subst alpha]
  | .gradient progress start stop, s => by
    simp only [subst, eval, eval_subst progress, eval_subst start, eval_subst stop]
  | .arithmetic op l r, s => by
    simp only [subst, eval, eval_subst l, eval_subst r]
  | .unary op e, s => by
    simp only [subst, eval, eval_subst e]
  | .compare c l r, s => by
    simp only [subst, eval, eval_subst l, eval_subst r]
  | .choose condition yes no, s => by
    simp only [subst, eval, eval_subst condition, eval_subst yes, eval_subst no]
  | .filter condition value default, s => by
    simp only [subst, eval, eval_subst condition, eval_subst value, evalOption_subst default]
  | .clip value low high, s => by
    simp only [subst, eval, eval_subst value, evalOption_subst low, evalOption_subst high]
  | .rangeNormalize value low high, s | .percentDenormalize value low high, s => by
    simp only [subst, eval, eval_subst value, eval_subst low, eval_subst high]
  | .collect items, s => by
    simp only [subst, eval, evalList_subst items]
  | .lengthOf mode value, s => by
    simp only [subst, eval, eval_subst value]
    rfl
  | .tagConstant k scope default, s => by
    simp only [subst, eval, evalOption_subst default]
    rfl
  | .log value label, s => by
    simp only [subst, eval, eval_subst value]

theorem evalOption_subst : ∀ (o : Option Expr) (absent : List Float) (s : Surroundings),
    evalOption (substOption x a o) absent s = evalOption o absent (s.bind x a)
  | none, absent, s => rfl
  | some e, absent, s => by simp only [substOption, evalOption, eval_subst e]

theorem evalList_subst : ∀ (l : List Expr) (s : Surroundings),
    evalList (substList x a l) s = evalList l (s.bind x a)
  | [], s => rfl
  | e :: rest, s => by simp only [substList, evalList, eval_subst e, evalList_subst rest]

end

variable {x a}

/-- **A binding is a substitution.** Where the value of a binding comes to an array, the binding
computes what its block computes with the array written for the variable: the same array or the same
failure, behind the log of the value. The variable is gone from the block then, and the block reads
the same other variables as before. Of all that is bound around an expression, only the variables
that it reads make a difference to what it computes. -/
theorem evaluate_bind {v b : Expr} (h : (eval v s).result = .ok a) :
    eval (bind x v b) s = (eval v s >>= fun _ => eval (b.subst x a) s) ∧
    ((bind x v b).evaluate s).result = ((b.subst x a).evaluate s).result ∧
    (∀ k, (b.subst x a).Free k ↔ b.Free k ∧ k ≠ x) ∧
    ∀ (e : Expr) (t : Surroundings) (bindings : Table (List Float)),
      (∀ k, e.Free k → t.bindings.get? k = bindings.get? k) →
        e.evaluate t = e.evaluate { t with bindings } := by
  have hbind : eval (bind x v b) s = (eval v s >>= fun _ => eval (b.subst x a) s) := by
    simp only [eval]
    refine Traced.bind_congr fun xs hxs => ?_
    obtain rfl := Except.ok.inj (h.symm.trans hxs)
    exact (eval_subst x a b s).symm
  refine ⟨hbind, ?_, fun k => free_subst b, fun e t bindings hk => evaluate_of_free ⟨rfl, hk⟩⟩
  unfold evaluate
  rw [hbind]
  simp only [Traced.result_bind, h]
  rfl

/-- The depth of a reach and one more, under a name that is bound again to their doubles: the inner
block, and its default, read the doubles. -/
theorem evaluate_bind_doubles :
    let v : Expr := collect [parentValue "depth", literal [1.0]]
    let inner : Expr :=
      filter (compare .greater (var "x") (literal [9.0])) (literal [0.0]) (some (var "x"))
    let b : Expr := arithmetic .add (var "x")
      (bind "x" (arithmetic .multiply (var "x") (literal [2.0])) inner)
    let s : Surroundings := { refs := [.ofList [("depth", 3.0)]] }
    (eval v s).result = .ok [3.0, 1.0] ∧
      b.subst "x" [3.0, 1.0] = arithmetic .add (literal [3.0, 1.0])
        (bind "x" (arithmetic .multiply (literal [3.0, 1.0]) (literal [2.0])) inner) ∧
      ((bind "x" v b).evaluate s).result = ((b.subst "x" [3.0, 1.0]).evaluate s).result ∧
      ((bind "x" v b).evaluate s).result = .ok [9.0, 3.0] := by
  intro v inner b s
  have hv : (eval v s).result = .ok [3.0, 1.0] := by rfl
  exact ⟨hv, rfl, (evaluate_bind hv).2.1, by decide +kernel⟩

end Expr

end ValuedGraph
