import ValuedGraph.Expr.Evaluation

/-!
# Related evaluations

Evaluating an expression twice, in two surroundings, gives related computations as soon as
what the expression *reads* is related: the operators only combine what their operands gave.
Facts on all expressions (nothing that is read is missing; more results do not change a
value) are instances, and only speak about the reading forms.

* `Eval.Compatible`: a relation between computations that sequencing respects.
* `Expr.Compatible`: a relation between surroundings that the sub-expressions of an
  expression inherit, and that relates whatever an expression reads.
* `Expr.eval_related`: **related surroundings give related evaluations**, for every
  expression.
-/

namespace ValuedGraph

/-- A relation between evaluations that start in two surroundings. -/
abbrev EvalRelation : Type 1 := (α : Type) → Eval α → Eval α → Prop

/-- **A relation that sequencing respects.** The second steps are only compared after first
steps that gave the same value. -/
structure Eval.Compatible (R : EvalRelation) : Prop where
  pure : ∀ {α : Type} (a : α), R α (Pure.pure a) (Pure.pure a)
  bind : ∀ {α β : Type} {x y : Eval α} {f g : α → Eval β}, R α x y →
    (∀ a, x.result = .ok a → y.result = .ok a → R β (f a) (g a)) → R β (x >>= f) (y >>= g)
  need : ∀ operand xs, R (List Float) (Eval.need operand xs) (Eval.need operand xs)
  numeric : ∀ {α : Type} (r : Except NumericFault α), R α (Eval.numeric r) (Eval.numeric r)
  tell : ∀ entry, R Unit (Traced.tell entry) (Traced.tell entry)

namespace Expr

/-- **A relation between surroundings, expression by expression,** that an expression hands
down to its children (into a block, with the bound array on both sides) and that relates what
the reading forms read. -/
structure Compatible (R : EvalRelation) (Rel : Expr → Surroundings → Surroundings → Prop) :
    Prop where
  child : ∀ {e s t}, Rel e s t → (∀ name v b, e ≠ bind name v b) → ∀ c ∈ e.children, Rel c s t
  value : ∀ {name v b s t}, Rel (bind name v b) s t → Rel v s t
  block : ∀ {name v b s t}, Rel (bind name v b) s t → ∀ xs, Rel b (s.bind name xs) (t.bind name xs)
  input : ∀ {s t}, Rel input s t → R (List Float) (eval input s) (eval input t)
  edgeConstant : ∀ {k s t}, Rel (edgeConstant k) s t →
    R (List Float) (eval (edgeConstant k) s) (eval (edgeConstant k) t)
  parentValue : ∀ {k s t}, Rel (parentValue k) s t →
    R (List Float) (eval (parentValue k) s) (eval (parentValue k) t)
  rootValue : ∀ {k s t}, Rel (rootValue k) s t →
    R (List Float) (eval (rootValue k) s) (eval (rootValue k) t)
  resultValue : ∀ {k s t}, Rel (resultValue k) s t →
    R (List Float) (eval (resultValue k) s) (eval (resultValue k) t)
  hasTag : ∀ {k scope s t}, Rel (hasTag k scope) s t →
    R (List Float) (eval (hasTag k scope) s) (eval (hasTag k scope) t)
  var : ∀ {k s t}, Rel (var k) s t → R (List Float) (eval (var k) s) (eval (var k) t)
  count : ∀ {mode e s t}, Rel (lengthOf mode e) s t → R Nat (s.count mode) (t.count mode)
  tagColumn : ∀ {k scope default s t}, Rel (tagConstant k scope default) s t →
    s.tagColumn k scope = t.tagColumn k scope

variable {R : EvalRelation} {Rel : Expr → Surroundings → Surroundings → Prop}

mutual

/-- **Related surroundings give related evaluations.** -/
theorem eval_related (hR : Eval.Compatible R) (h : Compatible R Rel) :
    ∀ (e : Expr) (s t : Surroundings), Rel e s t → R (List Float) (eval e s) (eval e t)
  | .literal values, s, t, hr => by
    simp only [eval]
    exact hR.pure values
  | .input, s, t, hr => h.input hr
  | .edgeConstant k, s, t, hr => h.edgeConstant hr
  | .parentValue k, s, t, hr => h.parentValue hr
  | .rootValue k, s, t, hr => h.rootValue hr
  | .resultValue k, s, t, hr => h.resultValue hr
  | .hasTag k scope, s, t, hr => h.hasTag hr
  | .var k, s, t, hr => h.var hr
  | .colorLiteral text packed, s, t, hr => by
    simp only [eval]
    exact hR.pure [packed]
  | .combine c value, s, t, hr => by
    have hc := h.child hr (by simp)
    simp only [eval]
    refine hR.bind (eval_related hR h value s t (hc _ (by simp [children]))) fun xs _ _ => ?_
    exact hR.bind (hR.numeric (c.apply xs)) fun x _ _ => hR.pure [x]
  | .colorRGB red green blue alpha, s, t, hr => by
    have hc := h.child hr (by simp)
    simp only [eval]
    refine hR.bind (eval_related hR h red s t (hc _ (by simp [children]))) fun xs _ _ => ?_
    refine hR.bind (hR.need .red xs) fun r _ _ => ?_
    refine hR.bind (eval_related hR h green s t (hc _ (by simp [children]))) fun xs _ _ => ?_
    refine hR.bind (hR.need .green xs) fun g _ _ => ?_
    refine hR.bind (eval_related hR h blue s t (hc _ (by simp [children]))) fun xs _ _ => ?_
    refine hR.bind (hR.need .blue xs) fun b _ _ => ?_
    refine hR.bind (evalOption_related hR h alpha [1.0] s t fun c hm =>
      hc c (by simp_all [children])) fun xs _ _ => ?_
    exact hR.bind (hR.need .alpha xs) fun a _ _ => hR.numeric (packChannels r g b a)
  | .gradient progress start stop, s, t, hr => by
    have hc := h.child hr (by simp)
    simp only [eval]
    refine hR.bind (eval_related hR h progress s t (hc _ (by simp [children]))) fun xs _ _ => ?_
    refine hR.bind (hR.need .progress xs) fun p _ _ => ?_
    refine hR.bind (eval_related hR h start s t (hc _ (by simp [children]))) fun xs _ _ => ?_
    refine hR.bind (hR.need .startColor xs) fun a _ _ => ?_
    refine hR.bind (eval_related hR h stop s t (hc _ (by simp [children]))) fun xs _ _ => ?_
    exact hR.bind (hR.need .endColor xs) fun b _ _ => hR.numeric (packGradient p a b)
  | .arithmetic op a b, s, t, hr => by
    have hc := h.child hr (by simp)
    simp only [eval]
    refine hR.bind (eval_related hR h a s t (hc _ (by simp [children]))) fun xs _ _ => ?_
    refine hR.bind (eval_related hR h b s t (hc _ (by simp [children]))) fun ys _ _ => ?_
    refine hR.bind (hR.need (.left op) xs) fun xs _ _ => ?_
    exact hR.bind (hR.need (.right op) ys) fun ys _ _ => hR.pure (zipSlots op.apply xs ys)
  | .unary op a, s, t, hr => by
    have hc := h.child hr (by simp)
    simp only [eval]
    refine hR.bind (eval_related hR h a s t (hc _ (by simp [children]))) fun xs _ _ => ?_
    exact hR.bind (hR.need (.only op) xs) fun xs _ _ => hR.pure (xs.map op.apply)
  | .compare c a b, s, t, hr => by
    have hc := h.child hr (by simp)
    simp only [eval]
    refine hR.bind (eval_related hR h a s t (hc _ (by simp [children]))) fun xs _ _ => ?_
    refine hR.bind (eval_related hR h b s t (hc _ (by simp [children]))) fun ys _ _ => ?_
    refine hR.bind (hR.need (.leftCompared c) xs) fun xs _ _ => ?_
    exact hR.bind (hR.need (.rightCompared c) ys) fun ys _ _ => hR.pure _
  | .choose condition yes no, s, t, hr => by
    have hc := h.child hr (by simp)
    simp only [eval]
    refine hR.bind (eval_related hR h condition s t (hc _ (by simp [children]))) fun xs _ _ => ?_
    refine hR.bind (hR.need .condition xs) fun flags _ _ => ?_
    refine hR.bind (eval_related hR h yes s t (hc _ (by simp [children]))) fun xs _ _ => ?_
    refine hR.bind (hR.need .yes xs) fun xs _ _ => ?_
    refine hR.bind (eval_related hR h no s t (hc _ (by simp [children]))) fun ys _ _ => ?_
    exact hR.bind (hR.need .no ys) fun ys _ _ => hR.pure _
  | .filter condition value default, s, t, hr => by
    have hc := h.child hr (by simp)
    simp only [eval]
    refine hR.bind (eval_related hR h condition s t (hc _ (by simp [children]))) fun xs _ _ => ?_
    refine hR.bind (hR.need .filterFlags xs) fun flags _ _ => ?_
    refine hR.bind (eval_related hR h value s t (hc _ (by simp [children]))) fun xs _ _ => ?_
    -- the default is evaluated on both sides or on neither
    split
    · exact evalOption_related hR h default [nullNumber] s t fun c hm =>
        hc c (by simp_all [children])
    · exact hR.pure _
  | .clip value low high, s, t, hr => by
    have hc := h.child hr (by simp)
    simp only [eval]
    refine hR.bind (evalOption_related hR h low [-infinity] s t fun c hm =>
      hc c (by simp_all [children])) fun xs _ _ => ?_
    refine hR.bind (hR.need .clipLow xs) fun lows _ _ => ?_
    refine hR.bind (evalOption_related hR h high [infinity] s t fun c hm =>
      hc c (by simp_all [children])) fun xs _ _ => ?_
    refine hR.bind (hR.need .clipHigh xs) fun highs _ _ => ?_
    exact hR.bind (eval_related hR h value s t (hc _ (by simp [children]))) fun xs _ _ =>
      hR.pure _
  | .rangeNormalize value low high, s, t, hr => by
    have hc := h.child hr (by simp)
    simp only [eval]
    refine hR.bind (eval_related hR h low s t (hc _ (by simp [children]))) fun xs _ _ => ?_
    refine hR.bind (hR.need .rangeLow xs) fun lows _ _ => ?_
    refine hR.bind (eval_related hR h high s t (hc _ (by simp [children]))) fun xs _ _ => ?_
    refine hR.bind (hR.need .rangeHigh xs) fun highs _ _ => ?_
    exact hR.bind (eval_related hR h value s t (hc _ (by simp [children]))) fun xs _ _ =>
      hR.pure _
  | .percentDenormalize value low high, s, t, hr => by
    have hc := h.child hr (by simp)
    simp only [eval]
    refine hR.bind (eval_related hR h low s t (hc _ (by simp [children]))) fun xs _ _ => ?_
    refine hR.bind (hR.need .percentLow xs) fun lows _ _ => ?_
    refine hR.bind (eval_related hR h high s t (hc _ (by simp [children]))) fun xs _ _ => ?_
    refine hR.bind (hR.need .percentHigh xs) fun highs _ _ => ?_
    exact hR.bind (eval_related hR h value s t (hc _ (by simp [children]))) fun xs _ _ =>
      hR.pure _
  | .collect items, s, t, hr => by
    have hc := h.child hr (by simp)
    simp only [eval]
    exact evalList_related hR h items s t hc
  | .lengthOf mode value, s, t, hr => by
    have hc := h.child hr (by simp)
    simp only [eval]
    refine hR.bind (h.count hr) fun n _ _ => ?_
    refine hR.bind (eval_related hR h value s t (hc _ (by simp [children]))) fun xs _ _ => ?_
    exact hR.bind (hR.need .repeated xs) fun xs _ _ => hR.pure _
  | .tagConstant k scope default, s, t, hr => by
    have hc := h.child hr (by simp)
    simp only [eval]
    rw [h.tagColumn hr]
    split
    · exact evalOption_related hR h default [] s t fun c hm => hc c (by simp_all [children])
    · exact hR.pure _
  | .bind name value block, s, t, hr => by
    simp only [eval]
    refine hR.bind (eval_related hR h value s t (h.value hr)) fun xs _ _ => ?_
    exact eval_related hR h block _ _ (h.block hr xs)
  | .log value label, s, t, hr => by
    have hc := h.child hr (by simp)
    simp only [eval]
    refine hR.bind (eval_related hR h value s t (hc _ (by simp [children]))) fun xs _ _ => ?_
    exact hR.bind (hR.tell ⟨label, xs⟩) fun _ _ _ => hR.pure xs

theorem evalOption_related (hR : Eval.Compatible R) (h : Compatible R Rel) :
    ∀ (o : Option Expr) (absent : List Float) (s t : Surroundings), (∀ c ∈ o.toList, Rel c s t) →
      R (List Float) (evalOption o absent s) (evalOption o absent t)
  | none, absent, s, t, _ => by
    simp only [evalOption]
    exact hR.pure absent
  | some e, absent, s, t, hc => by
    simp only [evalOption]
    exact eval_related hR h e s t (hc e (by simp))

theorem evalList_related (hR : Eval.Compatible R) (h : Compatible R Rel) :
    ∀ (l : List Expr) (s t : Surroundings), (∀ c ∈ l, Rel c s t) →
      R (List Float) (evalList l s) (evalList l t)
  | [], s, t, _ => by
    simp only [evalList]
    exact hR.pure []
  | e :: rest, s, t, hc => by
    simp only [evalList]
    refine hR.bind (eval_related hR h e s t (hc e (by simp))) fun xs _ _ => ?_
    refine hR.bind (evalList_related hR h rest s t fun c hm => hc c (by simp [hm]))
      fun ys _ _ => ?_
    exact hR.pure (xs ++ ys)

end

/-- **Related surroundings give related values** of whole expressions. -/
theorem evaluate_related (hR : Eval.Compatible R) (h : Compatible R Rel) {e : Expr}
    {s t : Surroundings} (hr : Rel e s t) : R (List Float) (e.evaluate s) (e.evaluate t) :=
  hR.bind (eval_related hR h e s t hr) fun xs _ _ => hR.need .whole xs

end Expr

end ValuedGraph
