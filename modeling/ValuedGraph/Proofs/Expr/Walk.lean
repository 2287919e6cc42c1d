import Mathlib.Algebra.Order.BigOperators.Group.List
import Mathlib.Algebra.Order.Group.Nat
import Mathlib.Algebra.Ring.Nat
import ValuedGraph.Expr.Basic

/-!
# All sub-expressions

The walk takes expressions off a stack. It lists an expression and then the walks of its
children, so a fact about all sub-expressions goes from parents to children.

* `Expr.children_induction`: facts that go from children to parents.
* `Expr.walk_eq`: **the walk of an expression** is the expression and the walks of its children.
* `Expr.preorder`, `Expr.walk_eq_preorder`: **the walk by recursion on the form,** without a stack.
* `Expr.forall_mem_walk`: facts that go from parents to children.
* `Expr.mem_dependencies`: the properties that an expression reads of the same node.
-/

namespace ValuedGraph

namespace Expr

variable {e c : Expr}

theorem sizeOption_eq (o : Option Expr) : sizeOption o = (o.toList.map size).sum := by
  cases o <;> simp [sizeOption]

theorem sizeList_eq (l : List Expr) : sizeList l = (l.map size).sum := by
  induction l with
  | nil => rfl
  | cons e l ih => simp [sizeList, ih]

/-- **The size of an expression** is one more than that of its children. -/
theorem size_eq (e : Expr) : e.size = (e.children.map size).sum + 1 := by
  cases e <;> simp [size, children, sizeOption_eq, sizeList_eq] <;> omega

theorem size_lt_of_mem_children (h : c ∈ e.children) : c.size < e.size := by
  have hle := List.le_sum_of_mem (List.mem_map_of_mem (f := size) h)
  rw [size_eq e]
  omega

/-- **What goes from children to parents** holds of all expressions. -/
theorem children_induction {p : Expr → Prop} (h : ∀ e, (∀ c ∈ e.children, p c) → p e) (e : Expr) :
    p e := by
  induction hn : e.size using Nat.strongRecOn generalizing e with
  | _ n ih =>
    subst hn
    exact h e fun c hc => ih c.size (size_lt_of_mem_children hc) c rfl

/-- Fuel enough for a stack is fuel enough for what is put in the place of its top. -/
theorem sum_size_cons (e : Expr) (stack : List Expr) :
    ((e :: stack).map size).sum = ((e.children ++ stack).map size).sum + 1 := by
  rw [List.map_cons, List.sum_cons, size_eq, List.map_append, List.sum_append]
  omega

/-- Two stacks, one on top of the other, are walked one after the other. -/
theorem unstack_append (n : ℕ) : ∀ top below : List Expr, (top.map size).sum = n →
    unstack ((top ++ below).map size).sum (top ++ below) =
      unstack n top ++ unstack (below.map size).sum below := by
  induction n with
  | zero =>
    intro top below hn
    cases top with
    | nil => rfl
    | cons e top =>
      rw [sum_size_cons] at hn
      omega
  | succ n ih =>
    intro top below hn
    cases top with
    | nil => simp at hn
    | cons e top =>
      rw [sum_size_cons] at hn
      rw [List.cons_append, sum_size_cons]
      simp only [unstack, List.cons_append]
      rw [← List.append_assoc, ih _ below (by omega)]

theorem unstack_eq_flatMap (stack : List Expr) :
    unstack (stack.map size).sum stack = stack.flatMap walk := by
  induction stack with
  | nil => rfl
  | cons e stack ih =>
    have happend := unstack_append ([e].map size).sum [e] stack rfl
    rw [List.singleton_append] at happend
    rw [happend, ih, List.flatMap_cons, List.map_singleton, List.sum_singleton, walk]

/-- **The walk of an expression** is the expression and the walks of its children. -/
theorem walk_eq (e : Expr) : e.walk = e :: e.children.flatMap walk := by
  rw [walk, size_eq, ← unstack_eq_flatMap]
  simp only [unstack, List.append_nil]

mutual
/-- **An expression and all below it, form by form:** first the expression, then what is below each
of its fields, in the order of the fields. -/
def preorder : Expr → List Expr
  | literal values => [literal values]
  | input => [input]
  | edgeConstant name => [edgeConstant name]
  | parentValue property => [parentValue property]
  | rootValue property => [rootValue property]
  | resultValue property => [resultValue property]
  | colorLiteral text packed => [colorLiteral text packed]
  | hasTag tag scope => [hasTag tag scope]
  | var name => [var name]
  | combine c value => combine c value :: preorder value
  | lengthOf mode value => lengthOf mode value :: preorder value
  | log value label => log value label :: preorder value
  | colorRGB red green blue alpha =>
    colorRGB red green blue alpha ::
      (preorder red ++ preorder green ++ preorder blue ++ preorderOption alpha)
  | gradient progress start stop =>
    gradient progress start stop :: (preorder progress ++ preorder start ++ preorder stop)
  | arithmetic op a b => arithmetic op a b :: (preorder a ++ preorder b)
  | compare c a b => compare c a b :: (preorder a ++ preorder b)
  | unary op a => unary op a :: preorder a
  | choose condition yes no =>
    choose condition yes no :: (preorder condition ++ preorder yes ++ preorder no)
  | filter condition value default =>
    filter condition value default ::
      (preorder condition ++ preorder value ++ preorderOption default)
  | clip value low high =>
    clip value low high :: (preorder value ++ preorderOption low ++ preorderOption high)
  | rangeNormalize value low high =>
    rangeNormalize value low high :: (preorder value ++ preorder low ++ preorder high)
  | percentDenormalize value low high =>
    percentDenormalize value low high :: (preorder value ++ preorder low ++ preorder high)
  | collect items => collect items :: preorderList items
  | tagConstant name scope default => tagConstant name scope default :: preorderOption default
  | bind name value block => bind name value block :: (preorder value ++ preorder block)

/-- An optional expression and all below it. -/
def preorderOption : Option Expr → List Expr
  | none => []
  | some e => preorder e

/-- Expressions and all below them, one after the other. -/
def preorderList : List Expr → List Expr
  | [] => []
  | e :: rest => preorder e ++ preorderList rest
end

theorem preorderOption_eq (o : Option Expr) : preorderOption o = o.toList.flatMap preorder := by
  cases o <;> simp [preorderOption]

theorem preorderList_eq (l : List Expr) : preorderList l = l.flatMap preorder := by
  induction l with
  | nil => rfl
  | cons e l ih => rw [preorderList, ih, List.flatMap_cons]

theorem preorder_eq (e : Expr) : e.preorder = e :: e.children.flatMap preorder := by
  cases e <;> simp [preorder, children, preorderOption_eq, preorderList_eq]

/-- **The stack and the recursion** list the same expressions in the same order. -/
theorem walk_eq_preorder (e : Expr) : e.walk = e.preorder := by
  induction e using children_induction with
  | h e ih =>
    have hchildren : e.children.flatMap walk = e.children.flatMap preorder :=
      List.flatMap_congr ih
    rw [walk_eq, preorder_eq, hchildren]

theorem mem_walk_self (e : Expr) : e ∈ e.walk := by
  rw [walk_eq]
  exact List.mem_cons_self

/-- What stands below a child stands below its parent. -/
theorem mem_walk_of_mem_children (hc : c ∈ e.children) {x : Expr} (hx : x ∈ c.walk) : x ∈ e.walk := by
  rw [walk_eq]
  exact List.mem_cons_of_mem _ (List.mem_flatMap.2 ⟨c, hc, hx⟩)

/-- **What goes from parents to children** holds of all sub-expressions. -/
theorem forall_mem_walk {p : Expr → Prop} (h : ∀ e, p e → ∀ c ∈ e.children, p c) :
    ∀ e, p e → ∀ x ∈ e.walk, p x := by
  intro e
  induction e using children_induction with
  | h e ih =>
    intro he x hx
    rw [walk_eq] at hx
    rcases List.mem_cons.1 hx with rfl | hx
    · exact he
    · obtain ⟨c, hc, hx⟩ := List.mem_flatMap.1 hx
      exact ih c hc (h e he c hc) x hx

/-- **The properties that an expression reads of the same node** are those that its result
references name. -/
theorem mem_dependencies {k : String} : k ∈ e.dependencies ↔ resultValue k ∈ e.walk := by
  unfold dependencies
  rw [List.mem_eraseDups, List.mem_filterMap]
  constructor
  · rintro ⟨x, hx, hk⟩
    cases x <;> simp only [resultName?, reduceCtorEq, Option.some.injEq] at hk
    rwa [← hk]
  · intro hk
    exact ⟨resultValue k, hk, rfl⟩

end Expr

end ValuedGraph
