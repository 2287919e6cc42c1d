import ValuedGraph.Proofs.Expr.Monotone
import ValuedGraph.Proofs.Trace

/-!
# Renamed properties

A property expression is written for any property, and its placeholder is renamed when the owner is
known. To rename a property in an expression comes to the same as to leave the expression alone and
let the old name read what the new one has, in every ref, in the root and in the results.

* `Table.redirect`, `Surroundings.redirect`: **a name that reads as another one.**
* `Expr.eval_rename`: the renamed expression gives the same computation, up to the name in a
  failure.
* `Expr.walk_rename`: the walk is renamed position by position.
* `Expr.evaluate_rename`: **what a renaming does** to values, failures, names and dependencies.
-/

namespace ValuedGraph

namespace Table

variable {α : Type}

/-- **A table in which a name reads as another one:** the old name has the value of the new one, or
none if the new one has none. -/
def redirect (t : Table α) (old new : String) : Table α :=
  match t.get? new with
  | some a => t.insert old a
  | none => t.erase old

/-- Every other name has the value it had. -/
theorem get?_redirect (t : Table α) (old new k : String) :
    (t.redirect old new).get? k = t.get? (if k = old then new else k) := by
  unfold redirect
  split <;> rename_i hnew
  · rw [get?_insert]
    split
    · rw [hnew]
    · rfl
  · rw [get?_erase]
    split
    · rw [hnew]
    · rfl

end Table

/-- **Surroundings in which a property reads as another one,** in every ref, in the root and in the
results. -/
def Surroundings.redirect (s : Surroundings) (old new : String) : Surroundings :=
  { s with
    refs := s.refs.map fun t => t.redirect old new
    root := s.root.redirect old new
    results := s.results.redirect old new }

/-- What is missing, with one property renamed. -/
def Missing.rename (old new : String) : Missing → Missing
  | refProperty p => refProperty (if p = old then new else p)
  | rootProperty p => rootProperty (if p = old then new else p)
  | resultProperty p => resultProperty (if p = old then new else p)
  | what => what

/-- A failure, with one property renamed. -/
def EvalFailure.rename (old new : String) : EvalFailure → EvalFailure
  | missing what => missing (what.rename old new)
  | failure => failure

variable (old new : String)

/-! ## Steps of an evaluation -/

theorem Eval.need_rename (operand : Operand) (xs : List Float) :
    (Eval.need operand xs).mapError (EvalFailure.rename old new) = Eval.need operand xs := by
  unfold Eval.need
  split <;> rfl

theorem Eval.numeric_rename {α : Type} (r : Except NumericFault α) :
    (Eval.numeric r).mapError (EvalFailure.rename old new) = Eval.numeric r := by
  cases r <;> rfl

theorem Eval.found_rename {α : Type} (value : Option α) (what : Missing) :
    (Eval.found value what).mapError (EvalFailure.rename old new) =
      Eval.found value (what.rename old new) := by
  cases value <;> rfl

theorem Eval.column_rename (tables : List (Table Float)) (k : String) (what : Missing) :
    (Eval.column tables k what).mapError (EvalFailure.rename old new) =
      Eval.column tables k (what.rename old new) := by
  simp only [Eval.column, Traced.mapError_mapM, Eval.found_rename]

theorem Eval.column_redirect (tables : List (Table Float)) (k : String) (what : Missing) :
    Eval.column (tables.map fun t => t.redirect old new) k what =
      Eval.column tables (if k = old then new else k) what := by
  simp only [Eval.column, List.mapM_map, Function.comp_def, Table.get?_redirect]

theorem Surroundings.count_redirect (s : Surroundings) (mode : LengthMode) :
    ((s.redirect old new).count mode).mapError (EvalFailure.rename old new) = s.count mode := by
  cases mode <;>
    simp only [count, redirect, Traced.mapError_pure, Traced.mapError_bind, Eval.found_rename,
      List.length_map, Missing.rename]

theorem Surroundings.hasTag_redirect (s : Surroundings) (tag : String) (scope : TagScope) :
    ((s.redirect old new).hasTag tag scope).mapError (EvalFailure.rename old new) =
      s.hasTag tag scope := by
  simp only [hasTag, redirect, Traced.mapError_pure, Traced.mapError_bind, Eval.found_rename,
    Missing.rename]

namespace Expr

mutual

/-- **The renamed expression gives the same computation** as the expression in surroundings where the
old name reads as the new one. Only the names in its failures are the new ones. -/
theorem eval_rename : ∀ (e : Expr) (s : Surroundings), eval (rename old new e) s =
    (eval e (s.redirect old new)).mapError (EvalFailure.rename old new)
  | .literal _, s | .colorLiteral _ _, s => rfl
  | .input, s => by
    simp only [rename, eval, Eval.found_rename]
    rfl
  | .edgeConstant k, s => by
    simp only [rename, eval, Eval.column_rename]
    rfl
  | .parentValue k, s => by
    simp only [rename, eval, Eval.column_rename, Surroundings.redirect, Eval.column_redirect]
    rfl
  | .rootValue k, s => by
    simp only [rename, eval, Traced.mapError_bind, Eval.found_rename, Surroundings.redirect,
      Table.get?_redirect]
    rfl
  | .resultValue k, s => by
    simp only [rename, eval, Traced.mapError_bind, Eval.found_rename, Surroundings.redirect,
      Table.get?_redirect]
    rfl
  | .hasTag tag scope, s => by
    simp only [rename, eval, Traced.mapError_bind, Surroundings.hasTag_redirect,
      Traced.mapError_pure]
  | .var k, s => by
    simp only [rename, eval, Eval.found_rename]
    rfl
  | .combine c a, s => by
    simp only [rename, eval, eval_rename a, Traced.mapError_bind, Traced.mapError_pure,
      Eval.numeric_rename]
  | .colorRGB red green blue alpha, s => by
    simp only [rename, eval, eval_rename red, eval_rename green, eval_rename blue,
      evalOption_rename alpha, Traced.mapError_bind, Eval.need_rename, Eval.numeric_rename]
  | .gradient progress start stop, s => by
    simp only [rename, eval, eval_rename progress, eval_rename start, eval_rename stop,
      Traced.mapError_bind, Eval.need_rename, Eval.numeric_rename]
  | .arithmetic op a b, s => by
    simp only [rename, eval, eval_rename a, eval_rename b, Traced.mapError_bind,
      Traced.mapError_pure, Eval.need_rename]
  | .unary op a, s => by
    simp only [rename, eval, eval_rename a, Traced.mapError_bind, Traced.mapError_pure,
      Eval.need_rename]
  | .compare c a b, s => by
    simp only [rename, eval, eval_rename a, eval_rename b, Traced.mapError_bind,
      Traced.mapError_pure, Eval.need_rename]
  | .choose condition yes no, s => by
    simp only [rename, eval, eval_rename condition, eval_rename yes, eval_rename no,
      Traced.mapError_bind, Traced.mapError_pure, Eval.need_rename]
  | .filter condition value default, s => by
    simp only [rename, eval, eval_rename condition, eval_rename value, evalOption_rename default,
      Traced.mapError_bind, Eval.need_rename, apply_ite (Traced.mapError _), Traced.mapError_pure]
  | .clip value low high, s => by
    simp only [rename, eval, eval_rename value, evalOption_rename low, evalOption_rename high,
      Traced.mapError_bind, Traced.mapError_pure, Eval.need_rename]
  | .rangeNormalize value low high, s | .percentDenormalize value low high, s => by
    simp only [rename, eval, eval_rename value, eval_rename low, eval_rename high,
      Traced.mapError_bind, Traced.mapError_pure, Eval.need_rename]
  | .collect items, s => by
    simp only [rename, eval, evalList_rename items]
  | .lengthOf mode value, s => by
    simp only [rename, eval, eval_rename value, Traced.mapError_bind, Traced.mapError_pure,
      Eval.need_rename, Surroundings.count_redirect]
  | .tagConstant k scope default, s => by
    simp only [rename, eval, evalOption_rename default, apply_ite (Traced.mapError _),
      Traced.mapError_pure]
    rfl
  | .bind k value block, s => by
    simp only [rename, eval, eval_rename value, eval_rename block, Traced.mapError_bind]
    rfl
  | .log value label, s => by
    simp only [rename, eval, eval_rename value, Traced.mapError_bind, Traced.mapError_pure]
    rfl

theorem evalOption_rename : ∀ (o : Option Expr) (absent : List Float) (s : Surroundings),
    evalOption (renameOption old new o) absent s =
      (evalOption o absent (s.redirect old new)).mapError (EvalFailure.rename old new)
  | none, absent, s => rfl
  | some e, absent, s => by simp only [renameOption, evalOption, eval_rename e]

theorem evalList_rename : ∀ (l : List Expr) (s : Surroundings), evalList (renameList old new l) s =
    (evalList l (s.redirect old new)).mapError (EvalFailure.rename old new)
  | [], s => rfl
  | e :: rest, s => by
    simp only [renameList, evalList, eval_rename e, evalList_rename rest, Traced.mapError_bind,
      Traced.mapError_pure]

end

/-! ## Names -/

theorem renameOption_eq (o : Option Expr) : renameOption old new o = o.map (rename old new) := by
  cases o <;> rfl

theorem renameList_eq (l : List Expr) : renameList old new l = l.map (rename old new) := by
  induction l with
  | nil => rfl
  | cons e l ih => rw [renameList, ih, List.map_cons]

theorem children_rename (e : Expr) : (rename old new e).children = e.children.map (rename old new) := by
  cases e <;> simp [rename, children, renameOption_eq, renameList_eq, Option.toList_map]

/-- **The walk is renamed position by position.** -/
theorem walk_rename (e : Expr) : (rename old new e).walk = e.walk.map (rename old new) := by
  induction e using children_induction with
  | h e ih =>
    rw [walk_eq, walk_eq e, children_rename, List.map_cons, List.map_flatMap, List.flatMap_map]
    congr 1
    exact List.flatMap_congr ih

/-- A name that is renamed is not the old one any more, or the new one is the same. -/
theorem ite_rename (p : String) :
    (if (if p = old then new else p) = old then new else if p = old then new else p) =
      if p = old then new else p := by
  by_cases hp : p = old
  · simp [hp]
  · simp [hp]

mutual

/-- **Renaming once more** changes nothing. -/
theorem rename_rename : ∀ e : Expr, rename old new (rename old new e) = rename old new e
  | .parentValue p | .rootValue p | .resultValue p => by simp only [rename, ite_rename]
  | .literal _ | .input | .edgeConstant _ | .colorLiteral _ _ | .hasTag _ _ | .var _ => rfl
  | .combine _ a | .unary _ a | .lengthOf _ a | .log a _ => by simp only [rename, rename_rename a]
  | .arithmetic _ a b | .compare _ a b | .bind _ a b => by
    simp only [rename, rename_rename a, rename_rename b]
  | .gradient a b c | .choose a b c | .rangeNormalize a b c | .percentDenormalize a b c => by
    simp only [rename, rename_rename a, rename_rename b, rename_rename c]
  | .colorRGB a b c alpha => by
    simp only [rename, rename_rename a, rename_rename b, rename_rename c, renameOption_rename alpha]
  | .filter a b default => by
    simp only [rename, rename_rename a, rename_rename b, renameOption_rename default]
  | .clip a low high => by
    simp only [rename, rename_rename a, renameOption_rename low, renameOption_rename high]
  | .tagConstant _ _ default => by simp only [rename, renameOption_rename default]
  | .collect items => by simp only [rename, renameList_rename items]

theorem renameOption_rename : ∀ o : Option Expr,
    renameOption old new (renameOption old new o) = renameOption old new o
  | none => rfl
  | some e => by simp only [renameOption, rename_rename e]

theorem renameList_rename : ∀ l : List Expr,
    renameList old new (renameList old new l) = renameList old new l
  | [] => rfl
  | e :: rest => by simp only [renameList, rename_rename e, renameList_rename rest]

end

theorem capability_rename (e : Expr) : (rename old new e).capability = e.capability := by
  cases e with
  | lengthOf mode value => cases mode <;> rfl
  | _ => rfl

/-- **The name that an expression itself has and that names no property:** of an edge constant, of a
tag, of a constant of tags or of a variable, be it bound or read. -/
def plainName? : Expr → Option String
  | edgeConstant name | hasTag name _ | tagConstant name _ _ | bind name _ _ | var name => some name
  | _ => none

theorem plainName?_rename (e : Expr) : (rename old new e).plainName? = e.plainName? := by
  cases e <;> rfl

/-- What a renamed reference refers to. -/
theorem resultName?_rename (e : Expr) :
    (rename old new e).resultName? = e.resultName?.map fun p => if p = old then new else p := by
  cases e <;> rfl

/-- **The dependencies are renamed,** and one that is there already is dropped. -/
theorem dependencies_rename (e : Expr) : (rename old new e).dependencies =
    (e.dependencies.map fun p => if p = old then new else p).eraseDups := by
  have hnames : (rename old new e).walk.filterMap resultName? =
      (e.walk.filterMap resultName?).map fun p => if p = old then new else p := by
    rw [walk_rename, List.filterMap_map, List.map_filterMap]
    exact congrArg (List.filterMap · e.walk) (funext (resultName?_rename old new))
  unfold dependencies
  rw [hnames, List.map_eq_flatMap, List.map_eq_flatMap, eraseDups_flatMap_eraseDups]

variable {old new : String}

/-- **No reference to the old name remains.** -/
theorem not_names_rename (h : new ≠ old) (e : Expr) : ¬ (rename old new e).Names old := by
  have hold : ∀ p : String, (if p = old then new else p) ≠ old := by
    intro p
    split
    · exact h
    · assumption
  unfold Names
  simp only [walk_rename, List.mem_map, not_or, not_exists, not_and]
  -- a reference only comes from a reference of the same kind
  refine ⟨?_, ?_, ?_⟩ <;> intro x _ hx <;> cases x <;>
    simp only [rename, reduceCtorEq, parentValue.injEq, rootValue.injEq, resultValue.injEq] at hx <;>
    exact hold _ hx

/-- **To rename a property in an expression** is to let the old name read as the new one: the renamed
expression has the values that the expression has in surroundings where every ref, the root and the
results have under the old name what they have under the new one, if anything. It leaves the same
log, and fails where that evaluation fails, with the new name in the failure. Nothing but references
to properties is renamed. If the names differ, no reference to the old one remains; to rename once
more changes nothing; and the dependencies are the renamed ones, each where it comes first. -/
theorem evaluate_rename (e : Expr) (old new : String) :
    (∀ s, (e.rename old new).evaluate s =
      (e.evaluate (s.redirect old new)).mapError (EvalFailure.rename old new)) ∧
    ((e.rename old new).walk.map fun x => (x.capability, x.plainName?)) =
      e.walk.map (fun x => (x.capability, x.plainName?)) ∧
    (new ≠ old → ¬ (e.rename old new).Names old) ∧
    (e.rename old new).rename old new = e.rename old new ∧
    (e.rename old new).dependencies =
      (e.dependencies.map fun p => if p = old then new else p).eraseDups := by
  refine ⟨?_, ?_, ?_, rename_rename old new e, dependencies_rename old new e⟩
  · intro s
    unfold evaluate
    rw [eval_rename, Traced.mapError_bind]
    simp only [Eval.need_rename]
  · simp only [walk_rename, List.map_map, Function.comp_def, capability_rename, plainName?_rename]
  · exact fun h => not_names_rename h e

/-- The placeholder of a property that turns out to be the flow of a river. -/
theorem evaluate_rename_flow :
    let e : Expr := bind "x" (parentValue ".")
      (filter (hasTag "deep" .all) (arithmetic .multiply (var "x") (resultValue "."))
        (some (arithmetic .add (resultValue "flow") (rootValue "depth"))))
    let s : Surroundings :=
      { refs := [.ofList [("flow", 2.0)], .ofList [("flow", 3.0), (".", 9.0)]]
        root := .ofList [("depth", 1.0)], results := .ofList [("flow", 4.0)]
        tags := ⟨["deep"], ["deep"]⟩, tagConstants := .ofList [("deep", ∅)] }
    ((e.rename "." "flow").evaluate s).result = .ok [8.0, 12.0] ∧
      (e.evaluate (s.redirect "." "flow")).result = .ok [8.0, 12.0] ∧
      ¬ (e.rename "." "flow").Names "." ∧
      (e.rename "." "flow").rename "." "flow" = e.rename "." "flow" ∧
      e.dependencies = [".", "flow"] ∧ (e.rename "." "flow").dependencies = ["flow"] := by
  intro e s
  obtain ⟨hsame, -, hnone, hagain, hdependencies⟩ := evaluate_rename e "." "flow"
  have hvalue : (e.evaluate (s.redirect "." "flow")).result = .ok [8.0, 12.0] := by
    decide +kernel
  refine ⟨?_, hvalue, hnone (by decide), hagain, rfl, hdependencies⟩
  rw [hsame s, Traced.result_mapError_ok]
  exact hvalue

end Expr

end ValuedGraph
