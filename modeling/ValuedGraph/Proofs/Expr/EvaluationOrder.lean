import Mathlib.Data.List.Rotate
import ValuedGraph.Proofs.Expr.Slots
import ValuedGraph.Proofs.Expr.Walk
import ValuedGraph.Proofs.Trace

/-!
# The order of evaluation

An evaluation visits an expression and what is below it, each in surroundings of its own, and
finishes every visit after those below it. A log leaves its line when its visit is finished, and the
first visit that fails is the last one to leave anything. What remains to say is in which order the
visits below another one are made: that of the children, except that bounds are evaluated before the
values between them.

* `Visit`, `Visit.children`, `Visit.operands`: visits, and those below them in either order.
* `Visit.Order.finished`: **the visits in the order in which a walk finishes them.**
* `Visit.Follows`: computations that leave their lines along visits, up to the first failure.
* `Visit.takes_operands`: each form takes the arrays of its operands one after the other.
* `Visit.forM_finished`: an evaluation is the same as to finish its visits.
* `Visit.evaluation_follows_operands`: **the order of evaluation.**
-/

namespace ValuedGraph

namespace Traced

variable {ε α β : Type}

/-- **A computation without its value:** its entries, and whether it fails. -/
def effect (x : Traced ε α) : Traced ε Unit := ⟨x.log, x.result.map fun _ => ()⟩

theorem effect_of_ok {x : Traced ε α} {a : α} (h : x.result = .ok a) :
    x.effect.result = .ok () := by
  rw [effect, h]
  rfl

theorem effect_of_error {x : Traced ε α} {e : ε} (h : x.result = .error e) :
    x.effect.result = .error e := by
  rw [effect, h]
  rfl

theorem bind_eq_of_ok {x : Traced ε α} {a : α} (h : x.result = .ok a) (f : α → Traced ε β) :
    x >>= f = ⟨x.log ++ (f a).log, (f a).result⟩ := by
  change Traced.bind x f = _
  unfold Traced.bind
  rw [h]

theorem bind_eq_of_error {x : Traced ε α} {e : ε} (h : x.result = .error e) (f : α → Traced ε β) :
    x >>= f = ⟨x.log, .error e⟩ := by
  change Traced.bind x f = _
  unfold Traced.bind
  rw [h]

/-- A sequence leaves nothing if its parts leave nothing. -/
theorem log_bind_nil {x : Traced ε α} {f : α → Traced ε β} (hx : x.log = [])
    (hf : ∀ a, (f a).log = []) : (x >>= f).log = [] := by
  rw [log_bind, hx]
  cases x.result with
  | ok a => exact hf a
  | error e => rfl

/-- Along lists one after the other, with one computation for each of them. -/
theorem forM_flatMap {γ : Type} {l : List γ} {g : γ → List α} {f : α → Traced ε PUnit}
    {f' : γ → Traced ε PUnit} (h : ∀ c ∈ l, forM (g c) f = f' c) :
    forM (l.flatMap g) f = forM l f' := by
  induction l with
  | nil => rfl
  | cons c l ih =>
    rw [List.flatMap_cons, List.forM_append, List.forM_cons, h c (by simp),
      ih fun d hd => h d (by simp [hd])]

end Traced

namespace Eval

variable {α : Type}

theorem log_found (value : Option α) (what : Missing) : (found value what).log = [] := by
  cases value <;> rfl

theorem log_need (operand : Operand) (xs : List Float) : (need operand xs).log = [] := by
  cases xs <;> rfl

theorem log_numeric (r : Except NumericFault α) : (numeric r).log = [] := rfl

theorem log_column (tables : List (Table Float)) (name : String) (what : Missing) :
    (column tables name what).log = [] := by
  unfold column
  induction tables with
  | nil => rfl
  | cons t tables ih =>
    rw [List.mapM_cons]
    exact Traced.log_bind_nil (log_found _ _) fun _ => Traced.log_bind_nil ih fun _ => rfl

end Eval

/-- **A visit to an expression:** the surroundings it is evaluated in, and the operand that its array
is needed for, if that must not be empty. -/
structure Visit where
  expr : Expr
  surroundings : Surroundings
  operand : Option Operand := none

/-- Whether a filter keeps any value. -/
def Surroundings.keeps (s : Surroundings) (condition value : Expr) : Bool :=
  match (condition.eval s).result, (value.eval s).result with
  | .ok flags, .ok xs => !(keepSlots flags xs).isEmpty
  | _, _ => false

/-- The values of a binding, if it comes to its block. -/
def Surroundings.valuesOf (s : Surroundings) (value : Expr) : List Float :=
  match (value.eval s).result with
  | .ok xs => xs
  | .error _ => []

/-- **The forms with bounds,** which are evaluated before the values between them. -/
def Expr.hasBounds : Expr → Bool
  | clip _ low high => low.isSome || high.isSome
  | rangeNormalize _ _ _ | percentDenormalize _ _ _ => true
  | _ => false

namespace Visit

open ValuedGraph.Expr (evalOption evalList)

/-- **What a visit comes to:** the array of the expression, or a failure. -/
def array (v : Visit) : Eval (List Float) :=
  match v.operand with
  | none => v.expr.eval v.surroundings
  | some operand => v.expr.eval v.surroundings >>= Eval.need operand

/-- **The visits below a visit, in the order of the children.** A default is left out where nothing
asks for it, and so is what stands behind the length of an input that is not there. -/
def children (v : Visit) : List Visit :=
  let s := v.surroundings
  match v.expr with
  | .literal _ | .input | .edgeConstant _ | .parentValue _ | .rootValue _ | .resultValue _ => []
  | .colorLiteral _ _ | .hasTag _ _ | .var _ => []
  | .combine _ value | .log value _ => [⟨value, s, none⟩]
  | .colorRGB red green blue alpha =>
    [⟨red, s, some .red⟩, ⟨green, s, some .green⟩, ⟨blue, s, some .blue⟩] ++
      alpha.toList.map (⟨·, s, some .alpha⟩)
  | .gradient progress start stop =>
    [⟨progress, s, some .progress⟩, ⟨start, s, some .startColor⟩, ⟨stop, s, some .endColor⟩]
  | .arithmetic _ a b | .compare _ a b => [⟨a, s, none⟩, ⟨b, s, none⟩]
  | .unary op a => [⟨a, s, some (.only op)⟩]
  | .choose condition yes no =>
    [⟨condition, s, some .condition⟩, ⟨yes, s, some .yes⟩, ⟨no, s, some .no⟩]
  | .filter condition value default =>
    [⟨condition, s, some .filterFlags⟩, ⟨value, s, none⟩] ++
      if s.keeps condition value then [] else default.toList.map (⟨·, s, none⟩)
  | .clip value low high =>
    [⟨value, s, none⟩] ++ low.toList.map (⟨·, s, some .clipLow⟩) ++
      high.toList.map (⟨·, s, some .clipHigh⟩)
  | .rangeNormalize value low high =>
    [⟨value, s, none⟩, ⟨low, s, some .rangeLow⟩, ⟨high, s, some .rangeHigh⟩]
  | .percentDenormalize value low high =>
    [⟨value, s, none⟩, ⟨low, s, some .percentLow⟩, ⟨high, s, some .percentHigh⟩]
  | .collect items => items.map (⟨·, s, none⟩)
  | .lengthOf mode value =>
    match mode, s.input with
    | .input, none => []
    | _, _ => [⟨value, s, some .repeated⟩]
  | .tagConstant name scope default =>
    if (s.tagColumn name scope).isEmpty then default.toList.map (⟨·, s, none⟩) else []
  | .bind name value block => [⟨value, s, none⟩, ⟨block, s.bind name (s.valuesOf value), none⟩]

/-- **The visits below a visit, in the order of evaluation:** bounds come first, and then the value
that stands in front of them among the children. -/
def operands (v : Visit) : List Visit :=
  if v.expr.hasBounds then v.children.rotate 1 else v.children

/-- **What is left out below a visit:** a default, since the filter keeps something or the tags of the
node have the constant; or a value, since the input whose length it would have is not there. -/
inductive LeavesOut : Visit → Expr → Prop
  | kept {condition value default : Expr} {s : Surroundings} {operand : Option Operand}
    {flags xs : List Float} (hflags : (condition.eval s).result = .ok flags)
    (hvalues : (value.eval s).result = .ok xs) (hkept : keepSlots flags xs ≠ []) :
    LeavesOut ⟨.filter condition value (some default), s, operand⟩ default
  | tagged {name : String} {scope : TagScope} {default : Expr} {s : Surroundings}
    {operand : Option Operand} (hfound : s.tagColumn name scope ≠ []) :
    LeavesOut ⟨.tagConstant name scope (some default), s, operand⟩ default
  | unmeasured {value : Expr} {s : Surroundings} {operand : Option Operand}
    (hinput : s.input = none) : LeavesOut ⟨.lengthOf .input value, s, operand⟩ value

/-- **What is left out below a visit** is the last of its children, and the only one. -/
theorem LeavesOut.map_children {v : Visit} {e : Expr} (h : v.LeavesOut e) :
    v.children.map expr ++ [e] = v.expr.children := by
  cases h with
  | @kept condition value default s operand flags xs hflags hvalues hkept =>
    have hkeeps : s.keeps condition value = true := by
      simp only [Surroundings.keeps, hflags, hvalues]
      simpa using hkept
    simp [children, Expr.children, hkeeps]
  | tagged hfound => simp [children, Expr.children, hfound]
  | unmeasured hinput => simp [children, Expr.children, hinput]

/-- **Below a visit are its children** if it does not leave one out. -/
theorem map_children (v : Visit) :
    v.children.map expr = v.expr.children ∨ ∃ e, v.LeavesOut e := by
  obtain ⟨e, s, operand⟩ := v
  cases e
  case filter condition value default =>
    by_cases hkeeps : s.keeps condition value = true
    · cases default with
      | none => exact Or.inl (by simp [children, Expr.children])
      | some default =>
        unfold Surroundings.keeps at hkeeps
        split at hkeeps
        · rename_i flags xs hflags hvalues
          exact Or.inr ⟨default, .kept hflags hvalues (by simpa using hkeeps)⟩
        · cases hkeeps
    · exact Or.inl (by simp [children, Expr.children, hkeeps, Function.comp_def])
  case tagConstant name scope default =>
    by_cases hfound : s.tagColumn name scope = []
    · exact Or.inl (by simp [children, Expr.children, hfound, Function.comp_def])
    · cases default with
      | none => exact Or.inl (by simp [children, Expr.children])
      | some default => exact Or.inr ⟨default, .tagged hfound⟩
  case lengthOf mode value =>
    cases mode with
    | refs | edges => exact Or.inl rfl
    | input =>
      cases hinput : s.input with
      | none => exact Or.inr ⟨value, .unmeasured hinput⟩
      | some xs => exact Or.inl (by simp [children, Expr.children, hinput])
  all_goals
    left
    simp [children, Expr.children, Function.comp_def]

theorem expr_mem_children {u v : Visit} (h : u ∈ v.children) : u.expr ∈ v.expr.children := by
  have hmem := List.mem_map_of_mem (f := expr) h
  rcases map_children v with hall | ⟨e, he⟩
  · rwa [hall] at hmem
  · rw [← he.map_children]
    exact List.mem_append_left _ hmem

/-- **Bounds are evaluated first,** and else the order is that of the children. -/
theorem operands_cases (v : Visit) : v.operands = v.children ∨ v.expr.hasBounds = true ∧
    ∃ value bounds, v.children = value :: bounds ∧ v.operands = bounds ++ [value] := by
  obtain ⟨e, s, operand⟩ := v
  unfold operands
  split
  · rename_i hbounds
    refine Or.inr ⟨hbounds, ?_⟩
    have hrotate (u : Visit) (l : List Visit) : (u :: l).rotate 1 = l ++ [u] := by simp
    cases e
    case clip | rangeNormalize | percentDenormalize => exact ⟨_, _, rfl, hrotate _ _⟩
    all_goals cases hbounds
  · exact Or.inl rfl

theorem mem_operands {u v : Visit} : u ∈ v.operands ↔ u ∈ v.children := by
  unfold operands
  split
  · exact List.mem_rotate
  · exact Iff.rfl

/-- **An order of visits:** those below each visit, from left to right. -/
structure Order where
  below : Visit → List Visit
  child : ∀ {v u}, u ∈ below v → u.expr ∈ v.expr.children

/-- **The visits in the order in which a walk finishes them,** each after all below it. -/
def Order.finished (o : Order) (v : Visit) : List Visit :=
  ((o.below v).attach.flatMap fun u => o.finished u.1) ++ [v]
termination_by v.expr.size
decreasing_by exact Expr.size_lt_of_mem_children (o.child u.2)

theorem Order.finished_eq (o : Order) (v : Visit) :
    o.finished v = (o.below v).flatMap o.finished ++ [v] := by
  rw [finished]
  simp

/-- The order in which the children are listed. -/
def Order.ofChildren : Order := ⟨children, expr_mem_children⟩

/-- The order in which the operands are evaluated. -/
def Order.ofOperands : Order := ⟨operands, fun h => expr_mem_children (mem_operands.1 h)⟩

/-- **Where nothing has bounds,** both orders are the same. -/
theorem finished_eq_of_not_hasBounds {v : Visit} (h : ∀ e ∈ v.expr.walk, e.hasBounds = false) :
    Order.ofOperands.finished v = Order.ofChildren.finished v := by
  obtain ⟨e, s, operand⟩ := v
  induction e using Expr.children_induction generalizing s operand with
  | h e ih =>
    have hown : operands ⟨e, s, operand⟩ = children ⟨e, s, operand⟩ := by
      unfold operands
      rw [if_neg]
      simp [h e (Expr.mem_walk_self e)]
    rw [Order.finished_eq, Order.finished_eq]
    refine congrArg (· ++ _) ?_
    change (operands _).flatMap _ = (children _).flatMap _
    rw [hown]
    refine List.flatMap_congr fun u hu => ?_
    have hc := expr_mem_children hu
    exact ih u.expr hc u.surroundings u.operand fun x hx =>
      h x (Expr.mem_walk_of_mem_children hc hx)

/-- **The line that a visit leaves:** that of a log, if its array is there. -/
def line? (v : Visit) : Option LogEntry :=
  match v.expr with
  | .log value label =>
    match (value.eval v.surroundings).result with
    | .ok xs => some ⟨label, xs⟩
    | .error _ => none
  | _ => none

theorem toList_append_filterMap (v : Visit) (visits : List Visit) :
    v.line?.toList ++ visits.filterMap line? = (v :: visits).filterMap line? := by
  rw [List.filterMap_cons]
  cases v.line? <;> rfl

/-- **A computation that leaves its lines along visits.** Either all of them pass, and so does the
computation; or it fails as the first one that fails, and leaves no line behind that one. -/
inductive Follows {α : Type} (visits : List Visit) (y : Eval α) : Prop
  | through (passed : ∀ v ∈ visits, ∃ xs, v.array.result = .ok xs)
    (result : ∃ a, y.result = .ok a) (log : y.log = visits.filterMap line?)
  | cut {before after : List Visit} {v : Visit} {failure : EvalFailure}
    (split : visits = before ++ v :: after) (passed : ∀ u ∈ before, ∃ xs, u.array.result = .ok xs)
    (fails : v.array.result = .error failure) (result : y.result = .error failure)
    (log : y.log = (before ++ [v]).filterMap line?)

/-- **What a visit does by itself,** when all below it is done: it leaves its line, and may fail. -/
def finish (v : Visit) : Eval Unit := ⟨v.line?.toList, v.array.result.map fun _ => ()⟩

/-- **To finish visits one after the other** is to leave lines along them. -/
theorem follows_forM (visits : List Visit) : Follows visits (forM visits finish) := by
  induction visits with
  | nil => exact .through (by simp) ⟨(), rfl⟩ rfl
  | cons v visits ih =>
    rw [List.forM_cons]
    cases hv : v.array.result with
    | error failure =>
      have hfinish : v.finish.result = .error failure := Traced.effect_of_error hv
      rw [Traced.bind_eq_of_error hfinish]
      have hsplit : v :: visits = [] ++ v :: visits := rfl
      refine .cut hsplit (by simp) hv rfl ?_
      exact (List.append_nil _).symm.trans (toList_append_filterMap v [])
    | ok xs =>
      have hfinish : v.finish.result = .ok () := Traced.effect_of_ok hv
      have hfirst {before : List Visit} (h : ∀ u ∈ before, ∃ xs, u.array.result = .ok xs) :
          ∀ u ∈ v :: before, ∃ xs, u.array.result = .ok xs :=
        List.forall_mem_cons.2 ⟨⟨xs, hv⟩, h⟩
      rw [Traced.bind_eq_of_ok hfinish]
      cases ih with
      | through passed result log =>
        refine .through (hfirst passed) result ?_
        rw [log]
        exact toList_append_filterMap v visits
      | cut split passed fails result log =>
        refine .cut (congrArg (v :: ·) split) (hfirst passed) fails result ?_
        rw [log]
        exact toList_append_filterMap v _

/-- A computation leaves its lines along visits if it does so without its value. -/
theorem Follows.of_effect {α : Type} {visits : List Visit} {y : Eval α}
    (h : Follows visits y.effect) : Follows visits y := by
  cases h with
  | through passed result log =>
    refine .through passed ?_ log
    cases hy : y.result with
    | ok a => exact ⟨a, rfl⟩
    | error failure =>
      obtain ⟨a, ha⟩ := result
      rw [Traced.effect_of_error hy] at ha
      cases ha
  | cut split passed fails result log =>
    refine .cut split passed fails ?_ log
    cases hy : y.result with
    | ok a =>
      rw [Traced.effect_of_ok hy] at result
      cases result
    | error failure =>
      rw [Traced.effect_of_error hy] at result
      exact congrArg Except.error (Except.error.inj result)

/-! ## The forms -/

/-- **A computation that takes the arrays of visits,** one after the other, and then leaves some
lines. -/
inductive Takes (lines : List LogEntry) : List Visit → Eval (List Float) → Prop
  | last {y : Eval (List Float)} (log : y.log = lines) : Takes lines [] y
  | next {v : Visit} {visits : List Visit} {f : List Float → Eval (List Float)}
    (h : ∀ xs, v.array.result = .ok xs → Takes lines visits (f xs)) :
    Takes lines (v :: visits) (v.array >>= f)

namespace Takes

variable {lines : List LogEntry} {visits : List Visit} {e : Expr} {s : Surroundings}
  {f : List Float → Eval (List Float)}

/-- An array, empty or not. -/
theorem eval (h : ∀ xs, (e.eval s).result = .ok xs → Takes lines visits (f xs)) :
    Takes lines (⟨e, s, none⟩ :: visits) (e.eval s >>= f) := next (v := ⟨e, s, none⟩) h

/-- An array that must not be empty. -/
theorem need {operand : Operand}
    (h : ∀ xs, (e.eval s).result = .ok xs → Takes lines visits (f xs)) :
    Takes lines (⟨e, s, some operand⟩ :: visits)
      (e.eval s >>= fun xs => Eval.need operand xs >>= f) := by
  rw [← bind_assoc]
  refine next (v := ⟨e, s, some operand⟩) fun xs hxs => ?_
  obtain ⟨ys, hys, hneed⟩ := Traced.result_bind_ok.1 hxs
  obtain ⟨-, rfl⟩ := Eval.need_ok.1 hneed
  exact h ys hys

/-- An array that is that of the whole. -/
theorem single : Takes [] [⟨e, s, none⟩] (e.eval s) := by
  have h : Takes [] [⟨e, s, none⟩] (e.eval s >>= Pure.pure) := eval fun xs _ => last rfl
  rwa [bind_pure] at h

/-- The array of an optional expression, or one that is not empty in its place. -/
theorem needOption {o : Option Expr} {absent : List Float} (habsent : absent ≠ [])
    {operand : Operand} (h : ∀ xs, Takes lines visits (f xs)) :
    Takes lines (o.toList.map (⟨·, s, some operand⟩) ++ visits)
      (evalOption o absent s >>= fun xs => Eval.need operand xs >>= f) := by
  cases o with
  | none =>
    have hneed : Eval.need operand absent = Pure.pure absent := by simp [Eval.need, habsent]
    simp only [evalOption, pure_bind, hneed]
    exact h absent
  | some e =>
    simp only [evalOption]
    exact need fun xs _ => h xs

/-- The array of an optional expression, or any other in its place. -/
theorem option {o : Option Expr} {absent : List Float} :
    Takes [] (o.toList.map (⟨·, s, none⟩)) (evalOption o absent s) := by
  cases o with
  | none => exact last rfl
  | some e => exact single

/-- The arrays of a list of expressions. -/
theorem list {l : List Expr} (h : ∀ xs, (f xs).log = lines) :
    Takes lines (l.map (⟨·, s, none⟩)) (evalList l s >>= f) := by
  induction l generalizing f with
  | nil =>
    simp only [evalList, pure_bind]
    exact last (h [])
  | cons e l ih =>
    simp only [evalList, bind_assoc, pure_bind]
    exact eval fun xs _ => ih fun ys => h (xs ++ ys)

end Takes

/-- **Each form takes the arrays of its operands** one after the other, and a log leaves its line
then. -/
theorem takes_operands (e : Expr) (s : Surroundings) (operand : Option Operand) :
    Takes (line? ⟨e, s, operand⟩).toList (operands ⟨e, s, operand⟩) (e.eval s) := by
  cases e with
  | literal | colorLiteral => exact .last rfl
  | input | var => exact .last (Eval.log_found _ _)
  | edgeConstant | parentValue => exact .last (Eval.log_column _ _ _)
  | rootValue | resultValue =>
    exact .last (Traced.log_bind_nil (Eval.log_found _ _) fun _ => rfl)
  | hasTag tag scope =>
    refine .last (Traced.log_bind_nil ?_ fun _ => rfl)
    exact Traced.log_bind_nil (Eval.log_found _ _) fun _ => rfl
  | combine c value =>
    exact .eval fun xs _ => .last (Traced.log_bind_nil (Eval.log_numeric _) fun _ => rfl)
  | colorRGB red green blue alpha =>
    simp only [Expr.eval]
    refine .need fun r _ => .need fun g _ => .need fun b _ => ?_
    have halpha : Takes [] (alpha.toList.map (⟨·, s, some .alpha⟩) ++ [])
        (evalOption alpha [1.0] s >>= fun a => Eval.need .alpha a >>= fun a =>
          Eval.numeric (packChannels r g b a)) :=
      .needOption (by simp) fun a => .last (Eval.log_numeric _)
    rwa [List.append_nil] at halpha
  | gradient progress start stop =>
    simp only [Expr.eval]
    exact .need fun p _ => .need fun a _ => .need fun b _ => .last (Eval.log_numeric _)
  | arithmetic op a b =>
    simp only [Expr.eval]
    refine .eval fun xs _ => .eval fun ys _ => .last ?_
    exact Traced.log_bind_nil (Eval.log_need _ _) fun _ =>
      Traced.log_bind_nil (Eval.log_need _ _) fun _ => rfl
  | unary op a =>
    simp only [Expr.eval]
    exact .need fun xs _ => .last rfl
  | compare c a b =>
    simp only [Expr.eval]
    refine .eval fun xs _ => .eval fun ys _ => .last ?_
    exact Traced.log_bind_nil (Eval.log_need _ _) fun _ =>
      Traced.log_bind_nil (Eval.log_need _ _) fun _ => rfl
  | choose condition yes no =>
    simp only [Expr.eval]
    exact .need fun flags _ => .need fun xs _ => .need fun ys _ => .last rfl
  | filter condition value default =>
    simp only [Expr.eval]
    refine .need fun flags hflags => .eval fun xs hxs => ?_
    -- the default is evaluated if the filter does not keep anything
    have hkeeps : s.keeps condition value = !(keepSlots flags xs).isEmpty := by
      simp only [Surroundings.keeps, hflags, hxs]
    rw [hkeeps]
    cases hkept : (keepSlots flags xs).isEmpty with
    | true => exact .option
    | false => exact .last rfl
  | clip value low high =>
    -- a bound that is not given is the array of an infinity, which nothing visits
    have hoperands : operands ⟨.clip value low high, s, operand⟩ =
        low.toList.map (⟨·, s, some .clipLow⟩) ++
          (high.toList.map (⟨·, s, some .clipHigh⟩) ++ [⟨value, s, none⟩]) := by
      cases low <;> cases high <;> rfl
    rw [hoperands]
    simp only [Expr.eval]
    refine .needOption (by simp) fun lows => .needOption (by simp) fun highs => ?_
    exact .eval fun xs _ => .last rfl
  | rangeNormalize value low high =>
    simp only [Expr.eval]
    exact .need fun lows _ => .need fun highs _ => .eval fun xs _ => .last rfl
  | percentDenormalize value low high =>
    simp only [Expr.eval]
    exact .need fun lows _ => .need fun highs _ => .eval fun xs _ => .last rfl
  | collect items =>
    have hlist : Takes [] (items.map (⟨·, s, none⟩)) (evalList items s >>= Pure.pure) :=
      .list fun _ => rfl
    rwa [bind_pure] at hlist
  | lengthOf mode value =>
    cases mode with
    | refs | edges =>
      simp only [Expr.eval, Surroundings.count, pure_bind]
      exact .need fun xs _ => .last rfl
    | input =>
      cases hinput : s.input with
      | none =>
        -- the length comes before the value, and there is none
        have hoperands : operands ⟨.lengthOf .input value, s, operand⟩ = [] := by
          simp [operands, children, Expr.hasBounds, hinput]
        rw [hoperands]
        simp only [Expr.eval, Surroundings.count, hinput]
        exact .last rfl
      | some input =>
        have hoperands : operands ⟨.lengthOf .input value, s, operand⟩ =
            [⟨value, s, some .repeated⟩] := by
          simp [operands, children, Expr.hasBounds, hinput]
        rw [hoperands]
        simp only [Expr.eval, Surroundings.count, hinput, Eval.found, pure_bind]
        exact .need fun xs _ => .last rfl
  | tagConstant name scope default =>
    simp only [Expr.eval]
    have hoperands : operands ⟨.tagConstant name scope default, s, operand⟩ =
        if (s.tagColumn name scope).isEmpty then default.toList.map (⟨·, s, none⟩) else [] := rfl
    rw [hoperands]
    cases (s.tagColumn name scope).isEmpty with
    | true => exact .option
    | false => exact .last rfl
  | bind name value block =>
    simp only [Expr.eval]
    refine .eval fun xs hxs => ?_
    have hvalues : s.valuesOf value = xs := by simp only [Surroundings.valuesOf, hxs]
    rw [hvalues]
    exact .single
  | log value label =>
    simp only [Expr.eval]
    refine .eval fun xs hxs => .last ?_
    simp only [line?, hxs]
    rfl

/-- **A computation that takes the arrays of visits** leaves the lines that they leave, fails as the
first one that fails, and else leaves its own lines and has its own result. -/
theorem Takes.eq {lines : List LogEntry} {visits : List Visit} {y : Eval (List Float)}
    (h : Takes lines visits y) :
    y = forM visits (fun v => v.array.effect) >>= fun _ => ⟨lines, y.result⟩ := by
  induction h with
  | last log =>
    rw [List.forM_nil, pure_bind, ← log]
  | @next v visits f _ ih =>
    rw [List.forM_cons, bind_assoc]
    cases hv : v.array.result with
    | error failure =>
      rw [Traced.bind_eq_of_error hv, Traced.bind_eq_of_error (Traced.effect_of_error hv)]
      rfl
    | ok xs =>
      rw [Traced.bind_eq_of_ok hv, Traced.bind_eq_of_ok (Traced.effect_of_ok hv), ← ih xs hv]
      rfl

/-- To need an array leaves no line. -/
theorem log_array (v : Visit) : v.array.log = (v.expr.eval v.surroundings).log := by
  obtain ⟨e, s, operand⟩ := v
  cases operand with
  | none => rfl
  | some operand =>
    simp only [array, Traced.log_bind]
    cases (e.eval s).result with
    | error failure => exact List.append_nil _
    | ok xs =>
      dsimp only
      rw [Eval.log_need, List.append_nil]

/-- A visit fails as its expression does. -/
theorem array_of_error {v : Visit} {failure : EvalFailure}
    (h : (v.expr.eval v.surroundings).result = .error failure) :
    v.array.result = .error failure := by
  unfold array
  split
  · exact h
  · exact Traced.result_bind_error.2 (Or.inl h)

/-- **A visit comes to what its operands come to,** one after the other, and then to what it does by
itself. -/
theorem effect_array (v : Visit) :
    v.array.effect = forM v.operands (fun u => u.array.effect) >>= fun _ => v.finish := by
  have heval : v.expr.eval v.surroundings = forM v.operands (fun u : Visit => u.array.effect) >>=
      fun _ => ⟨v.line?.toList, (v.expr.eval v.surroundings).result⟩ :=
    (takes_operands v.expr v.surroundings v.operand).eq
  generalize forM v.operands (fun u : Visit => u.array.effect) = below at heval ⊢
  -- the equation has the expression on both sides, so it is only taken apart, field by field
  cases hb : below.result with
  | error failure =>
    rw [Traced.bind_eq_of_error hb] at heval
    rw [Traced.bind_eq_of_error hb, Traced.effect, log_array, heval, array_of_error (by rw [heval])]
    rfl
  | ok _ =>
    rw [Traced.bind_eq_of_ok hb] at heval
    have hlog := congrArg Traced.log heval
    rw [Traced.bind_eq_of_ok hb, Traced.effect, log_array, hlog]
    rfl

/-- **To evaluate is to finish the visits** in the order of the operands. -/
theorem forM_finished (v : Visit) : forM (Order.ofOperands.finished v) finish = v.array.effect := by
  induction hn : v.expr.size using Nat.strongRecOn generalizing v with
  | ind n ih =>
    subst hn
    -- the operands are smaller, whatever they stand for in the form
    have hbelow : ∀ u ∈ Order.ofOperands.below v,
        forM (Order.ofOperands.finished u) finish = u.array.effect := fun u hu =>
      ih _ (Expr.size_lt_of_mem_children (Order.ofOperands.child hu)) u rfl
    rw [Order.finished_eq, List.forM_append, Traced.forM_flatMap hbelow, effect_array v]
    refine congrArg _ (funext fun _ => ?_)
    rw [List.forM_cons, List.forM_nil]
    exact bind_pure _

/-- **The order of evaluation.** An evaluation leaves its lines along visits to the expression and to
all below it, each finished after those below it, up to the first one that fails: its lines are those
of the logs among them, and its failure is that of the first one that fails. Below a visit stand its
children, but for a default that nothing asks for and for what stands behind the length of an input
that is not there. They stand in their order, except that bounds come before the value between them.
So where nothing has bounds, a walk over the children finishes what is evaluated in the same order. -/
theorem evaluation_follows_operands (e : Expr) (s : Surroundings) :
    Follows (Order.ofOperands.finished ⟨e, s, some .whole⟩) (e.evaluate s) ∧
    (∀ v : Visit, v.operands = v.children ∨ v.expr.hasBounds = true ∧
      ∃ value bounds, v.children = value :: bounds ∧ v.operands = bounds ++ [value]) ∧
    (∀ v : Visit, v.children.map expr = v.expr.children ∨ ∃ d, v.LeavesOut d) ∧
    (∀ (v : Visit) d, v.LeavesOut d → v.children.map expr ++ [d] = v.expr.children) ∧
    ((∀ x ∈ e.walk, x.hasBounds = false) →
      Follows (Order.ofChildren.finished ⟨e, s, some .whole⟩) (e.evaluate s)) := by
  have hfollows : Follows (Order.ofOperands.finished ⟨e, s, some .whole⟩) (e.evaluate s) := by
    have hall := follows_forM (Order.ofOperands.finished ⟨e, s, some .whole⟩)
    rw [forM_finished] at hall
    exact hall.of_effect
  refine ⟨hfollows, operands_cases, map_children, fun v d h => h.map_children, fun hnone => ?_⟩
  rw [← finished_eq_of_not_hasBounds hnone]
  exact hfollows

/-- The level of a pond, which is kept above its ground. -/
def pondLevel : Expr :=
  .clip (.log (.literal [5.0]) "level") (some (.log (.literal [1.0]) "ground")) none

/-- **The ground is logged before the level,** which comes first among the children. -/
theorem ground_before_level :
    ¬ Follows (Order.ofChildren.finished ⟨pondLevel, {}, some .whole⟩) (pondLevel.evaluate {}) ∧
      (pondLevel.evaluate {}).log = [⟨"ground", [1.0]⟩, ⟨"level", [5.0]⟩] := by
  have hlog : (pondLevel.evaluate {}).log = [⟨"ground", [1.0]⟩, ⟨"level", [5.0]⟩] := rfl
  have hresult : ∃ xs, (pondLevel.evaluate {}).result = .ok xs := ⟨_, rfl⟩
  refine ⟨fun h => ?_, hlog⟩
  cases h with
  | through passed result log =>
    -- a walk over the children has the level in front
    have hlines : (Order.ofChildren.finished ⟨pondLevel, {}, some .whole⟩).filterMap line? =
        [⟨"level", [5.0]⟩, ⟨"ground", [1.0]⟩] := by
      have hbelow : Order.ofChildren.below = children := rfl
      simp only [Order.finished_eq, hbelow, children, pondLevel, Option.toList_some,
        Option.toList_none, List.map_cons, List.map_nil, List.append_nil, List.cons_append,
        List.nil_append, List.flatMap_cons, List.flatMap_nil]
      rfl
    rw [hlog, hlines] at log
    simp at log
  | cut split passed fails result log =>
    obtain ⟨xs, hxs⟩ := hresult
    rw [hxs] at result
    cases result

/-- A filter that keeps something, so its default is not logged. -/
def weirFlow : Expr :=
  .filter (.log (.literal [1.0, 0.0]) "open") (.log (.literal [2.0, 3.0]) "flow")
    (some (.log (.literal [0.0]) "dry"))

/-- The flow over a weir is logged as a walk over the children finishes it. -/
theorem evaluation_follows_operands_weir : (∀ x ∈ weirFlow.walk, x.hasBounds = false) ∧
    Follows (Order.ofChildren.finished ⟨weirFlow, {}, some .whole⟩) (weirFlow.evaluate {}) ∧
    (weirFlow.evaluate {}).log = [⟨"open", [1.0, 0.0]⟩, ⟨"flow", [2.0, 3.0]⟩] := by
  have hnone : ∀ x ∈ weirFlow.walk, x.hasBounds = false := by
    simp [Expr.walk_eq, weirFlow, Expr.children, Expr.hasBounds]
  obtain ⟨-, -, -, -, hchildren⟩ := evaluation_follows_operands weirFlow {}
  refine ⟨hnone, hchildren hnone, by decide +kernel⟩

end Visit

end ValuedGraph
