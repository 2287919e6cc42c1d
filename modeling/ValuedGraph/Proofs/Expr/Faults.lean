import ValuedGraph.Expr.Parser
import ValuedGraph.Proofs.Combiner
import ValuedGraph.Proofs.Expr.Slots
import ValuedGraph.Proofs.Expr.Validity
import ValuedGraph.Proofs.Expr.Walk

/-!
# Where arithmetic fails in an expression

Besides what is missing and what is empty, an evaluation may fail in its arithmetic. Only two forms
have arithmetic that may fail: a sum or mean of numbers without an exact sum, and a color with a
channel that is not finite. All other forms give infinities and NaN on, gradients among them.

* `exists_packGradient`, `packChannels_onlyFails`: the colors of arrays.
* `Expr.Faults`: **the forms that fail by themselves.**
* `Expr.eval_onlyFaults`: an evaluation only has the faults of the expressions in it.
* `Expr.evaluate_value_or_fault`: **what an evaluation comes to.**
-/

namespace ValuedGraph

variable {r g b a xs : List Float} {fault : NumericFault}

/-! ## Colors of arrays -/

/-- A position of an array that is not empty holds one of its numbers. -/
theorem slot_mem (h : xs ≠ []) (i : ℕ) : slot xs i ∈ xs := by
  have hi : i % xs.length < xs.length := Nat.mod_lt _ (List.length_pos_iff.2 h)
  rw [slot, List.getD_eq_getElem _ _ hi]
  exact List.getElem_mem hi

theorem exists_slot_eq {x : Float} (h : x ∈ xs) : ∃ i < xs.length, slot xs i = x := by
  obtain ⟨i, hi, rfl⟩ := List.getElem_of_mem h
  exact ⟨i, hi, slot_eq_getElem hi⟩

/-- **Gradients never fail.** -/
theorem exists_packGradient (p s e : List Float) : ∃ ys, packGradient p s e = .ok ys := by
  refine exists_mapM_ok fun i _ => ?_
  obtain ⟨c, x, hcolor, hpack⟩ := Color.exists_interpolate (Color.bytes_unpack (slot s i))
    (Color.bytes_unpack (slot e i)) (slot p i)
  exact ⟨x, (bind_of_ok hcolor _).trans hpack⟩

/-- **Why there are no colors:** a channel has no integer next to it. -/
theorem packChannels_onlyFails (hr : r ≠ []) (hg : g ≠ []) (hb : b ≠ []) :
    OnlyFails (fun fault => ∃ x ∈ r ++ g ++ b, NoInteger x fault) (packChannels r g b a) := by
  refine .mapM fun i _ => ?_
  refine .bind (fun fault h => ?_) fun c hc => ?_
  · obtain ⟨x, hx, hfault⟩ := Color.make_onlyFails _ fault h
    refine ⟨x, ?_, hfault⟩
    have hred := slot_mem hr i
    have hgreen := slot_mem hg i
    have hblue := slot_mem hb i
    simp only [List.mem_cons, List.not_mem_nil, or_false] at hx
    simp only [List.mem_append]
    rcases hx with rfl | rfl | rfl
    · exact Or.inl (Or.inl hred)
    · exact Or.inl (Or.inr hgreen)
    · exact Or.inr hblue
  · obtain ⟨x, hx⟩ := (Color.modest_make hc).exists_pack
    rw [hx]
    exact .ok x

/-- Colors have only finite channels. -/
theorem isFinite_of_packChannels {ys : List Float} (h : packChannels r g b a = .ok ys) :
    ∀ x ∈ r ++ g ++ b, x.isFinite = true := by
  have hall : ∀ i < max (max r.length g.length) (max b.length a.length),
      (slot r i).isFinite = true ∧ (slot g i).isFinite = true ∧ (slot b i).isFinite = true := by
    intro i hi
    obtain ⟨c, hc⟩ : ∃ c, Color.make (slot r i) (slot g i) (slot b i) (slot a i) = .ok c := by
      refine forall_mem_of_forall₂ (P := fun i =>
        ∃ c, Color.make (slot r i) (slot g i) (slot b i) (slot a i) = .ok c)
        (mapM_ok.1 h).flip (fun y i hy => ?_) i (List.mem_range.2 hi)
      obtain ⟨c, hc, -⟩ := ok_of_bind hy
      exact ⟨c, hc⟩
    exact Color.isFinite_of_make hc
  intro x hx
  simp only [List.mem_append] at hx
  obtain (hx | hx) | hx := hx <;> obtain ⟨i, hi, rfl⟩ := exists_slot_eq hx
  · exact (hall i (by omega)).1
  · exact (hall i (by omega)).2.1
  · exact (hall i (by omega)).2.2

namespace Expr

/-- **The forms that fail by themselves,** once the expressions below them have values: a sum or mean
of numbers without an exact sum, and a color with a channel that is not finite. -/
inductive Faults (s : Surroundings) : Expr → NumericFault → Prop
  | combine {c : Combiner} {value : Expr} {xs : List Float} {fault : NumericFault}
      (adds : c = .sum ∨ c = .mean) (items : (eval value s).result = .ok xs)
      (fails : SumFails xs fault) : Faults s (combine c value) fault
  | color {red green blue : Expr} {alpha : Option Expr} {r g b a : List Float} {x : Float}
      {fault : NumericFault} (hred : (eval red s).result = .ok r)
      (hgreen : (eval green s).result = .ok g) (hblue : (eval blue s).result = .ok b)
      (halpha : (evalOption alpha [1.0] s).result = .ok a)
      (filled : r ≠ [] ∧ g ≠ [] ∧ b ≠ [] ∧ a ≠ []) (channel : x ∈ r ++ g ++ b)
      (fails : NoInteger x fault) : Faults s (colorRGB red green blue alpha) fault

/-- **An expression that fails by itself** has no value. -/
theorem Faults.eval_fails {s : Surroundings} {e : Expr} (h : Faults s e fault) :
    ∃ fault', (eval e s).result = .error (.numeric fault') := by
  cases h with
  | @combine c value xs fault adds items fails =>
    have happly : c.apply xs = .error fault := Combiner.apply_eq_error.2 ⟨adds, fails⟩
    refine ⟨fault, ?_⟩
    simp only [eval, Traced.result_bind, items, Except.bind, happly]
    rfl
  | @color red green blue alpha r g b a x fault hred hgreen hblue halpha filled channel fails =>
    obtain ⟨hr, hg, hb, ha⟩ := filled
    cases hpack : packChannels r g b a with
    | ok ys =>
      have hfinite := isFinite_of_packChannels hpack x channel
      have hnot := exists_noInteger.1 ⟨fault, fails⟩
      rw [hfinite] at hnot
      cases hnot
    | error fault' =>
      refine ⟨fault', ?_⟩
      simp only [eval, Traced.result_bind, hred, hgreen, hblue, halpha, Except.bind,
        Eval.need_ok.2 ⟨hr, rfl⟩, Eval.need_ok.2 ⟨hg, rfl⟩, Eval.need_ok.2 ⟨hb, rfl⟩,
        Eval.need_ok.2 ⟨ha, rfl⟩, hpack]
      rfl

end Expr

/-! ## Faults along evaluations -/

section Computations

variable {α β : Type} {P : NumericFault → Prop}

/-- **Every fault of an evaluation** has a property. -/
def Eval.OnlyFaults (P : NumericFault → Prop) (x : Eval α) : Prop :=
  OnlyFails (fun failure => ∀ fault, failure = .numeric fault → P fault) x.result

namespace Eval.OnlyFaults

theorem pure (a : α) : OnlyFaults P (Pure.pure a : Eval α) := .ok a

theorem bind {x : Eval α} {f : α → Eval β} (hx : OnlyFaults P x)
    (hf : ∀ a, x.result = .ok a → OnlyFaults P (f a)) : OnlyFaults P (x >>= f) := by
  unfold OnlyFaults
  rw [Traced.result_bind]
  exact OnlyFails.bind hx hf

theorem found (value : Option α) (what : Missing) : OnlyFaults P (Eval.found value what) := by
  cases value with
  | none => exact .error nofun
  | some a => exact .ok a

theorem need (operand : Operand) (xs : List Float) : OnlyFaults P (Eval.need operand xs) := by
  cases xs with
  | nil => exact .error nofun
  | cons x xs => exact .ok _

theorem column (tables : List (Table Float)) (name : String) (what : Missing) :
    OnlyFaults P (Eval.column tables name what) := by
  unfold OnlyFaults Eval.column
  rw [Traced.result_mapM]
  exact .mapM fun t _ => found _ _

theorem numeric {r : Except NumericFault α} (hr : OnlyFails P r) :
    OnlyFaults P (Eval.numeric r) := by
  refine OnlyFails.mapError hr fun fault hfault fault' heq => ?_
  obtain rfl := EvalFailure.numeric.inj heq
  exact hfault

theorem tell (entry : LogEntry) : OnlyFaults P (Traced.tell entry : Eval Unit) := .ok ()

theorem count (s : Surroundings) (mode : LengthMode) : OnlyFaults P (s.count mode) := by
  cases mode with
  | refs | edges => exact pure _
  | input => exact bind (found _ _) fun xs _ => pure _

end Eval.OnlyFaults

end Computations

namespace Expr

/-- **No expression below fails by itself** but with faults that have a property, whatever is bound
around it. -/
def FaultsOnly (P : NumericFault → Prop) (s : Surroundings) (e : Expr) : Prop :=
  ∀ x ∈ e.walk, ∀ bindings fault, Faults { s with bindings } x fault → P fault

variable {P : NumericFault → Prop} {s : Surroundings} {e : Expr}

theorem FaultsOnly.child (h : FaultsOnly P s e) {c : Expr} (hc : c ∈ e.children) :
    FaultsOnly P s c := fun x hx => h x (mem_walk_of_mem_children hc hx)

theorem FaultsOnly.self (h : FaultsOnly P s e) : ∀ fault, Faults s e fault → P fault :=
  h e (mem_walk_self e) s.bindings

theorem FaultsOnly.bind (h : FaultsOnly P s e) (name : String) (xs : List Float) :
    FaultsOnly P (s.bind name xs) e := h

open Eval (OnlyFaults)

mutual

/-- **An evaluation only has the faults of the expressions in it.** -/
theorem eval_onlyFaults : ∀ (e : Expr) (s : Surroundings), FaultsOnly P s e → OnlyFaults P (eval e s)
  | .literal values, s, h => by
    simp only [eval]
    exact .pure values
  | .input, s, h => by
    simp only [eval]
    exact .found _ _
  | .edgeConstant k, s, h => by
    simp only [eval]
    exact .column _ _ _
  | .parentValue k, s, h => by
    simp only [eval]
    exact .column _ _ _
  | .rootValue k, s, h => by
    simp only [eval]
    exact .bind (.found _ _) fun x _ => .pure [x]
  | .resultValue k, s, h => by
    simp only [eval]
    exact .bind (.found _ _) fun x _ => .pure [x]
  | .hasTag k scope, s, h => by
    simp only [eval, Surroundings.hasTag]
    exact .bind (.bind (.found _ _) fun _ _ => .pure _) fun x _ => .pure [x]
  | .var k, s, h => by
    simp only [eval]
    exact .found _ _
  | .colorLiteral text packed, s, h => by
    simp only [eval]
    exact .pure [packed]
  | .combine c value, s, h => by
    simp only [eval]
    refine .bind (eval_onlyFaults value s (h.child (by simp [children]))) fun xs hxs => ?_
    refine .bind (.numeric fun fault hfault => ?_) fun x _ => .pure [x]
    -- the array of the operand is the one whose exact sum fails
    obtain ⟨hadds, hfails⟩ := Combiner.apply_eq_error.1 hfault
    exact h.self fault (.combine hadds hxs hfails)
  | .colorRGB red green blue alpha, s, h => by
    simp only [eval]
    refine .bind (eval_onlyFaults red s (h.child (by simp [children]))) fun r hr => ?_
    refine .bind (.need _ _) fun r' hr' => ?_
    refine .bind (eval_onlyFaults green s (h.child (by simp [children]))) fun g hg => ?_
    refine .bind (.need _ _) fun g' hg' => ?_
    refine .bind (eval_onlyFaults blue s (h.child (by simp [children]))) fun b hb => ?_
    refine .bind (.need _ _) fun b' hb' => ?_
    refine .bind (evalOption_onlyFaults alpha [1.0] s fun c hc => h.child (by simp_all [children]))
      fun a ha => ?_
    refine .bind (.need _ _) fun a' ha' => ?_
    obtain ⟨hrne, rfl⟩ := Eval.need_ok.1 hr'
    obtain ⟨hgne, rfl⟩ := Eval.need_ok.1 hg'
    obtain ⟨hbne, rfl⟩ := Eval.need_ok.1 hb'
    obtain ⟨hane, rfl⟩ := Eval.need_ok.1 ha'
    refine .numeric fun fault hfault => ?_
    -- all four arrays are there, so only a channel can be to blame
    obtain ⟨x, hx, hnone⟩ := packChannels_onlyFails hrne hgne hbne fault hfault
    exact h.self fault (.color hr hg hb ha ⟨hrne, hgne, hbne, hane⟩ hx hnone)
  | .gradient progress start stop, s, h => by
    simp only [eval]
    refine .bind (eval_onlyFaults progress s (h.child (by simp [children]))) fun _ _ => ?_
    refine .bind (.need _ _) fun p _ => ?_
    refine .bind (eval_onlyFaults start s (h.child (by simp [children]))) fun _ _ => ?_
    refine .bind (.need _ _) fun a _ => ?_
    refine .bind (eval_onlyFaults stop s (h.child (by simp [children]))) fun _ _ => ?_
    refine .bind (.need _ _) fun b _ => ?_
    obtain ⟨ys, hys⟩ := exists_packGradient p a b
    rw [hys]
    exact .numeric (.ok ys)
  | .arithmetic op a b, s, h => by
    simp only [eval]
    refine .bind (eval_onlyFaults a s (h.child (by simp [children]))) fun _ _ => ?_
    refine .bind (eval_onlyFaults b s (h.child (by simp [children]))) fun _ _ => ?_
    exact .bind (.need _ _) fun _ _ => .bind (.need _ _) fun _ _ => .pure _
  | .unary op a, s, h => by
    simp only [eval]
    refine .bind (eval_onlyFaults a s (h.child (by simp [children]))) fun _ _ => ?_
    exact .bind (.need _ _) fun _ _ => .pure _
  | .compare c a b, s, h => by
    simp only [eval]
    refine .bind (eval_onlyFaults a s (h.child (by simp [children]))) fun _ _ => ?_
    refine .bind (eval_onlyFaults b s (h.child (by simp [children]))) fun _ _ => ?_
    exact .bind (.need _ _) fun _ _ => .bind (.need _ _) fun _ _ => .pure _
  | .choose condition yes no, s, h => by
    simp only [eval]
    refine .bind (eval_onlyFaults condition s (h.child (by simp [children]))) fun _ _ => ?_
    refine .bind (.need _ _) fun _ _ => ?_
    refine .bind (eval_onlyFaults yes s (h.child (by simp [children]))) fun _ _ => ?_
    refine .bind (.need _ _) fun _ _ => ?_
    refine .bind (eval_onlyFaults no s (h.child (by simp [children]))) fun _ _ => ?_
    exact .bind (.need _ _) fun _ _ => .pure _
  | .filter condition value default, s, h => by
    simp only [eval]
    refine .bind (eval_onlyFaults condition s (h.child (by simp [children]))) fun _ _ => ?_
    refine .bind (.need _ _) fun _ _ => ?_
    refine .bind (eval_onlyFaults value s (h.child (by simp [children]))) fun _ _ => ?_
    split
    · exact evalOption_onlyFaults default [nullNumber] s fun c hc =>
        h.child (by simp_all [children])
    · exact .pure _
  | .clip value low high, s, h => by
    simp only [eval]
    refine .bind (evalOption_onlyFaults low [-infinity] s fun c hc =>
      h.child (by simp_all [children])) fun _ _ => ?_
    refine .bind (.need _ _) fun _ _ => ?_
    refine .bind (evalOption_onlyFaults high [infinity] s fun c hc =>
      h.child (by simp_all [children])) fun _ _ => ?_
    refine .bind (.need _ _) fun _ _ => ?_
    exact .bind (eval_onlyFaults value s (h.child (by simp [children]))) fun _ _ => .pure _
  | .rangeNormalize value low high, s, h => by
    simp only [eval]
    refine .bind (eval_onlyFaults low s (h.child (by simp [children]))) fun _ _ => ?_
    refine .bind (.need _ _) fun _ _ => ?_
    refine .bind (eval_onlyFaults high s (h.child (by simp [children]))) fun _ _ => ?_
    refine .bind (.need _ _) fun _ _ => ?_
    exact .bind (eval_onlyFaults value s (h.child (by simp [children]))) fun _ _ => .pure _
  | .percentDenormalize value low high, s, h => by
    simp only [eval]
    refine .bind (eval_onlyFaults low s (h.child (by simp [children]))) fun _ _ => ?_
    refine .bind (.need _ _) fun _ _ => ?_
    refine .bind (eval_onlyFaults high s (h.child (by simp [children]))) fun _ _ => ?_
    refine .bind (.need _ _) fun _ _ => ?_
    exact .bind (eval_onlyFaults value s (h.child (by simp [children]))) fun _ _ => .pure _
  | .collect items, s, h => by
    simp only [eval]
    exact evalList_onlyFaults items s fun c hc => h.child hc
  | .lengthOf mode value, s, h => by
    simp only [eval]
    refine .bind (.count s mode) fun _ _ => ?_
    refine .bind (eval_onlyFaults value s (h.child (by simp [children]))) fun _ _ => ?_
    exact .bind (.need _ _) fun _ _ => .pure _
  | .tagConstant k scope default, s, h => by
    simp only [eval]
    split
    · exact evalOption_onlyFaults default [] s fun c hc => h.child (by simp_all [children])
    · exact .pure _
  | .bind name value block, s, h => by
    simp only [eval]
    refine .bind (eval_onlyFaults value s (h.child (by simp [children]))) fun xs _ => ?_
    -- what is below the block fails under no bindings but with these faults
    exact eval_onlyFaults block _ ((h.child (by simp [children])).bind name xs)
  | .log value label, s, h => by
    simp only [eval]
    refine .bind (eval_onlyFaults value s (h.child (by simp [children]))) fun xs _ => ?_
    exact .bind (.tell _) fun _ _ => .pure xs

theorem evalOption_onlyFaults : ∀ (o : Option Expr) (absent : List Float) (s : Surroundings),
    (∀ c ∈ o.toList, FaultsOnly P s c) → OnlyFaults P (evalOption o absent s)
  | none, absent, s, _ => by
    simp only [evalOption]
    exact .pure absent
  | some e, absent, s, h => by
    simp only [evalOption]
    exact eval_onlyFaults e s (h e (by simp))

theorem evalList_onlyFaults : ∀ (l : List Expr) (s : Surroundings),
    (∀ c ∈ l, FaultsOnly P s c) → OnlyFaults P (evalList l s)
  | [], s, _ => by
    simp only [evalList]
    exact .pure []
  | e :: rest, s, h => by
    simp only [evalList]
    refine .bind (eval_onlyFaults e s (h e (by simp))) fun xs _ => ?_
    exact .bind (evalList_onlyFaults rest s fun c hc => h c (by simp [hc])) fun ys _ => .pure (xs ++ ys)

end

/-- A fault of an evaluation is that of an expression in it. -/
theorem exists_faults_of_evaluate {fault : NumericFault}
    (h : (e.evaluate s).result = .error (.numeric fault)) :
    ∃ x ∈ e.walk, ∃ bindings, Faults { s with bindings } x fault := by
  have hbelow : FaultsOnly (fun fault => ∃ x ∈ e.walk, ∃ bindings,
      Faults { s with bindings } x fault) s e :=
    fun x hx bindings fault hfaults => ⟨x, hx, bindings, hfaults⟩
  have hwhole := Eval.OnlyFaults.bind (eval_onlyFaults e s hbelow) fun xs _ => .need .whole xs
  exact hwhole _ h fault rfl

/-- **What an evaluation comes to.** It has a value that is not empty; or something is missing or
empty; or arithmetic fails. Arithmetic fails in expressions of two forms only, sums and means of
numbers without an exact sum and colors with a channel that is not finite, and there it does fail.
A normalization never divides by zero, since different bounds have a difference. -/
theorem evaluate_value_or_fault (e : Expr) (s : Surroundings) :
    ((∃ xs, (e.evaluate s).result = .ok xs ∧ xs ≠ []) ∨
      (∃ what, (e.evaluate s).result = .error (.missing what)) ∨
      (∃ operand, (e.evaluate s).result = .error (.empty operand)) ∨
      ∃ fault, (e.evaluate s).result = .error (.numeric fault) ∧
        ∃ x ∈ e.walk, ∃ bindings, Faults { s with bindings } x fault) ∧
    (∀ fault, Faults s e fault → ∃ fault', (e.evaluate s).result = .error (.numeric fault')) ∧
    ∀ low high : Float, (high == low) = true ∨ (high - low == 0.0) = false := by
  refine ⟨?_, fun fault h => ?_, fun low high => ?_⟩
  · cases hr : (e.evaluate s).result with
    | ok xs => exact Or.inl ⟨xs, rfl, evaluate_ne_nil hr⟩
    | error failure =>
      cases failure with
      | missing what => exact Or.inr (Or.inl ⟨what, rfl⟩)
      | empty operand => exact Or.inr (Or.inr (Or.inl ⟨operand, rfl⟩))
      | numeric fault => exact Or.inr (Or.inr (Or.inr ⟨fault, rfl, exists_faults_of_evaluate hr⟩))
  · obtain ⟨fault', hfault⟩ := h.eval_fails
    exact ⟨fault', Traced.result_bind_error.2 (Or.inl hfault)⟩
  · cases hsame : high == low with
    | true => exact Or.inl rfl
    | false => exact Or.inr (sub_beq_zero hsame)

/-- **A color whose red is a quotient by zero** has no value. -/
theorem evaluate_infinite_red :
    ∃ e, parse (.object [("rgb", .list [.object [("operator", .text "/"), ("a", .int 1),
        ("b", .int 0)], .int 0, .int 0])]) "" = .ok e ∧
      (e.evaluate {}).result = .error (.numeric .infinityToInteger) := by
  refine ⟨.colorRGB (.arithmetic .divide (.literal [1.0]) (.literal [0.0])) (.literal [0.0])
    (.literal [0.0]) none, by rfl, ?_⟩
  decide +kernel

end Expr

end ValuedGraph
