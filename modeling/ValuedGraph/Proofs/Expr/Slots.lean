import Mathlib.Data.Set.Insert
import ValuedGraph.Expr.Evaluation
import ValuedGraph.Proofs.Trace

/-!
# Edges by themselves

The slot-wise forms treat parallel edges independently: what they come to at one edge does not
depend on the other edges. So the same expression may be evaluated for some of the edges only, in
any order, and gives the values that stand at their positions. A choice is slot-wise, too, as long
as its condition is not one value for all edges.

* `slot_zipSlots`, `slot_map`, `slot_mapSlots`: the operators, position by position.
* `Expr.SlotWise`: **the slot-wise forms.**
* `Aligned`: values for all edges, and those for some of them.
* `Expr.eval_aligned`: **edges that are left out, repeated or reordered** make no difference to the
  values of the others.
* `Expr.evaluate_slotWise`: one edge alone, and all edges in another order.
* `Expr.evaluate_choose`: a choice, slot by slot, and where it has too few.
-/

namespace ValuedGraph

variable {n : ℕ} {positions : List ℕ}

/-! ## Positions of arrays that start over -/

section Slots

variable {xs ys : List Float}

theorem slot_singleton (x : Float) (i : ℕ) : slot [x] i = x := by
  simp [slot, Nat.mod_one]

theorem slot_eq_getElem {i : ℕ} (h : i < xs.length) : slot xs i = xs[i] := by
  simp [slot, Nat.mod_eq_of_lt h, h]

/-- A position may be counted around any multiple of the length. -/
theorem slot_mod {k : ℕ} (h : xs.length ∣ k) (i : ℕ) : slot xs (i % k) = slot xs i := by
  simp only [slot, Nat.mod_mod_of_dvd i h]

theorem slot_map (f : Float → Float) (h : xs ≠ []) (i : ℕ) : slot (xs.map f) i = f (slot xs i) := by
  have hi : i % xs.length < xs.length := Nat.mod_lt _ (List.length_pos_iff.2 h)
  simp [slot, hi]

theorem length_mapSlots (f : ℕ → Float → Float) (xs : List Float) :
    (mapSlots f xs).length = xs.length := by
  simp [mapSlots]

/-- A changed array, where the change sees the position in the array. -/
theorem slot_mapSlots (f : ℕ → Float → Float) (h : xs ≠ []) (i : ℕ) :
    slot (mapSlots f xs) i = f (i % xs.length) (slot xs i) := by
  have hi : i % xs.length < xs.length := Nat.mod_lt _ (List.length_pos_iff.2 h)
  simp [slot, mapSlots, hi]

theorem length_zipSlots (f : Float → Float → Float) (xs ys : List Float) :
    (zipSlots f xs ys).length = max xs.length ys.length := by
  simp [zipSlots]

/-- **Two arrays are combined position by position,** also behind their ends if both start over
there. -/
theorem slot_zipSlots (f : Float → Float → Float) (h : xs ≠ [])
    (hx : xs.length ∣ max xs.length ys.length) (hy : ys.length ∣ max xs.length ys.length) (i : ℕ) :
    slot (zipSlots f xs ys) i = f (slot xs i) (slot ys i) := by
  have hpos : 0 < max xs.length ys.length := by
    have := List.length_pos_iff.2 h
    omega
  have hi : i % max xs.length ys.length < (zipSlots f xs ys).length := by
    rw [length_zipSlots]
    exact Nat.mod_lt _ hpos
  have hmod : (zipSlots f xs ys).length ∣ max xs.length ys.length := by
    simp only [length_zipSlots, Nat.dvd_refl]
  rw [← slot_mod hmod i, slot_eq_getElem hi]
  simp only [zipSlots, List.getElem_map, List.getElem_range, slot_mod hx, slot_mod hy]

end Slots

/-! ## Selected positions -/

/-- **Positions to select** among `n`, at least one. -/
structure Selection (n : ℕ) (positions : List ℕ) : Prop where
  ne_nil : positions ≠ []
  lt : ∀ i ∈ positions, i < n

namespace Selection

theorem one_le (h : Selection n positions) : 1 ≤ n := by
  obtain ⟨i, hi⟩ := List.exists_mem_of_ne_nil positions h.ne_nil
  have := h.lt i hi
  omega

theorem one_le_length (h : Selection n positions) : 1 ≤ positions.length :=
  List.length_pos_iff.2 h.ne_nil

theorem singleton {i : ℕ} (h : i < n) : Selection n [i] := ⟨by simp, by simpa using h⟩

theorem of_perm (hn : 1 ≤ n) (h : positions.Perm (List.range n)) : Selection n positions where
  ne_nil := by
    rintro rfl
    have := h.length_eq
    simp only [List.length_nil, List.length_range] at this
    omega
  lt i hi := by simpa using h.mem_iff.1 hi

end Selection

/-- **Values for `n` slots, and those for selected positions:** both are one value, or both have one
for each slot; and where a position is selected, they agree. -/
structure Aligned (n : ℕ) (positions : List ℕ) (v w : List Float) : Prop where
  shape : v.length = 1 ∧ w.length = 1 ∨ v.length = n ∧ w.length = positions.length
  slots : ∀ j i, positions[j]? = some i → slot w j = slot v i

/-- Lengths each of which is one or a common length divide the larger of them. -/
theorem dvd_max_of_wide {k a b : ℕ} (hk : 1 ≤ k) (ha : a = 1 ∨ a = k) (hb : b = 1 ∨ b = k) :
    a ∣ max a b ∧ b ∣ max a b := by
  rcases ha with rfl | rfl <;> rcases hb with rfl | rfl <;> simp [hk]

namespace Aligned

variable {v w v' w' : List Float}

theorem single (x : Float) : Aligned n positions [x] [x] where
  shape := Or.inl ⟨rfl, rfl⟩
  slots j i _ := by rw [slot_singleton, slot_singleton]

theorem wide (h : Aligned n positions v w) : v.length = 1 ∨ v.length = n :=
  h.shape.imp And.left And.left

theorem wide_right (h : Aligned n positions v w) : w.length = 1 ∨ w.length = positions.length :=
  h.shape.imp And.right And.right

theorem ne_nil (hs : Selection n positions) (h : Aligned n positions v w) : v ≠ [] ∧ w ≠ [] := by
  have hn := hs.one_le
  have hp := hs.one_le_length
  constructor <;> rintro rfl <;> rcases h.shape with ⟨hv, hw⟩ | ⟨hv, hw⟩ <;>
    simp only [List.length_nil] at hv hw <;> omega

theorem map (hs : Selection n positions) (f : Float → Float) (h : Aligned n positions v w) :
    Aligned n positions (v.map f) (w.map f) := by
  obtain ⟨hv, hw⟩ := h.ne_nil hs
  refine ⟨by simpa using h.shape, fun j i hi => ?_⟩
  rw [slot_map f hw, slot_map f hv, h.slots j i hi]

theorem zipSlots (hs : Selection n positions) (f : Float → Float → Float)
    (h : Aligned n positions v w) (h' : Aligned n positions v' w') :
    Aligned n positions (zipSlots f v v') (zipSlots f w w') := by
  obtain ⟨hv, hw⟩ := h.ne_nil hs
  obtain ⟨hdv, hdv'⟩ := dvd_max_of_wide hs.one_le h.wide h'.wide
  obtain ⟨hdw, hdw'⟩ := dvd_max_of_wide hs.one_le_length h.wide_right h'.wide_right
  refine ⟨?_, fun j i hi => ?_⟩
  · have hn := hs.one_le
    have hp := hs.one_le_length
    simp only [length_zipSlots]
    rcases h.shape with ⟨hl, hr⟩ | ⟨hl, hr⟩ <;> rcases h'.shape with ⟨hl', hr'⟩ | ⟨hl', hr'⟩ <;> omega
  · rw [slot_zipSlots f hw hdw hdw', slot_zipSlots f hv hdv hdv', h.slots j i hi, h'.slots j i hi]

/-- At one selected position, there is the one value of it. -/
theorem eq_singleton {i : ℕ} (h : Aligned n [i] v w) : w = [slot v i] := by
  have hlength : w.length = 1 := by simpa using h.wide_right
  obtain ⟨x, rfl⟩ := List.length_eq_one_iff.1 hlength
  have hslot := h.slots 0 i rfl
  rw [slot_singleton] at hslot
  rw [hslot]

end Aligned

/-! ## Slot-wise forms -/

namespace Expr

/-- **The slot-wise forms,** with variables from a scope: single numbers, edge constants, references
to refs, to the root and to results, tests of tags, operators, comparisons and bindings. -/
inductive SlotWise : Set String → Expr → Prop
  | literal {scope : Set String} (x : Float) : SlotWise scope (literal [x])
  | edgeConstant {scope : Set String} (name : String) : SlotWise scope (edgeConstant name)
  | parentValue {scope : Set String} (property : String) : SlotWise scope (parentValue property)
  | rootValue {scope : Set String} (property : String) : SlotWise scope (rootValue property)
  | resultValue {scope : Set String} (property : String) : SlotWise scope (resultValue property)
  | hasTag {scope : Set String} (tag : String) (which : TagScope) : SlotWise scope (hasTag tag which)
  | arithmetic {scope : Set String} {a b : Expr} (op : BinaryOperator) (ha : SlotWise scope a)
      (hb : SlotWise scope b) : SlotWise scope (arithmetic op a b)
  | unary {scope : Set String} {a : Expr} (op : UnaryOperator) (ha : SlotWise scope a) :
      SlotWise scope (unary op a)
  | compare {scope : Set String} {a b : Expr} (c : Comparator) (ha : SlotWise scope a)
      (hb : SlotWise scope b) : SlotWise scope (compare c a b)
  | bind {scope : Set String} {value block : Expr} (name : String) (hvalue : SlotWise scope value)
      (hblock : SlotWise (insert name scope) block) : SlotWise scope (bind name value block)
  | var {scope : Set String} {name : String} (h : name ∈ scope) : SlotWise scope (var name)

end Expr

namespace Surroundings

/-- **The surroundings with the edges at some positions only,** and their refs. -/
def select (s : Surroundings) (positions : List ℕ) : Surroundings :=
  { s with
    edges := positions.filterMap fun i => s.edges[i]?
    refs := positions.filterMap fun i => s.refs[i]? }

/-- **Surroundings with `n` parallel edges and refs, and with selected ones of them.** What is bound
to the variables of a scope is aligned; all else that slot-wise forms read is the same. -/
structure Selects (n : ℕ) (positions : List ℕ) (scope : Set String) (s t : Surroundings) : Prop where
  edges : s.edges.length = n ∧ t.edges = positions.filterMap fun i => s.edges[i]?
  refs : s.refs.length = n ∧ t.refs = positions.filterMap fun i => s.refs[i]?
  root : t.root = s.root
  results : t.results = s.results
  tags : t.tags = s.tags
  tagConstants : t.tagConstants = s.tagConstants
  bindings : ∀ name ∈ scope, ∀ xs, s.bindings.get? name = some xs →
    ∃ ys, t.bindings.get? name = some ys ∧ Aligned n positions xs ys

variable {scope : Set String} {s t : Surroundings}

/-- A block sees one more variable, which is aligned if the values bound to it are. -/
theorem Selects.bind (h : s.Selects n positions scope t) (name : String) {xs ys : List Float}
    (hxs : Aligned n positions xs ys) :
    (s.bind name xs).Selects n positions (insert name scope) (t.bind name ys) := by
  refine ⟨h.edges, h.refs, h.root, h.results, h.tags, h.tagConstants, ?_⟩
  intro k hk zs hzs
  simp only [Surroundings.bind, Table.get?_insert] at hzs ⊢
  by_cases hname : k = name
  · rw [if_pos hname] at hzs ⊢
    obtain rfl := Option.some.inj hzs
    exact ⟨ys, rfl, hxs⟩
  · rw [if_neg hname] at hzs ⊢
    exact h.bindings k (Set.mem_of_mem_insert_of_ne hk hname) zs hzs

end Surroundings

namespace Eval

theorem need_ok {operand : Operand} {xs ys : List Float} :
    (need operand xs).result = .ok ys ↔ xs ≠ [] ∧ xs = ys := by
  cases xs with
  | nil => simp [need, Traced.fail]
  | cons x xs => simp [need]

theorem found_ok {α : Type} {value : Option α} {what : Missing} {a : α} :
    (found value what).result = .ok a ↔ value = some a := by
  cases value <;> simp [found, Traced.fail]

/-- **A column of selected tables** has the values at their positions. -/
theorem column_aligned {tables : List (Table Float)} (hn : tables.length = n)
    (hs : Selection n positions) {name : String} {what : Missing} {xs : List Float}
    (h : (column tables name what).result = .ok xs) :
    ∃ ys, (column (positions.filterMap fun i => tables[i]?) name what).result = .ok ys ∧
      Aligned n positions xs ys := by
  have hall := Traced.result_mapM_ok.1 h
  have hlength : xs.length = n := by rw [← hn, hall.length_eq]
  have hvalue : ∀ i (hi : i < n), (found (tables[i].get? name) what).result = .ok (slot xs i) := by
    intro i hi
    rw [slot_eq_getElem (by omega)]
    exact List.Forall₂.get hall (by omega) (by omega)
  refine ⟨positions.map (slot xs), ?_, Or.inr ⟨hlength, by simp⟩, ?_⟩
  · unfold column
    rw [Traced.result_mapM_ok]
    have hlt := hs.lt
    clear hs
    induction positions with
    | nil => exact .nil
    | cons i rest ih =>
      have hi : i < n := hlt i (by simp)
      rw [List.filterMap_cons_some (List.getElem?_eq_getElem (by omega)), List.map_cons]
      exact .cons (hvalue i hi) (ih fun j hj => hlt j (by simp [hj]))
  · intro j i hi
    have hj : j < (positions.map (slot xs)).length := by
      simpa using (List.getElem?_eq_some_iff.1 hi).1
    rw [slot_eq_getElem hj, List.getElem_map]
    exact congrArg (slot xs) (List.getElem?_eq_some_iff.1 hi).2

end Eval

/-! ## Evaluation of some edges -/

namespace Expr

section Forms

variable {a b condition yes no : Expr} {s : Surroundings} {v : List Float}

theorem eval_arithmetic_ok {op : BinaryOperator} : (eval (arithmetic op a b) s).result = .ok v ↔
    ∃ xs, (eval a s).result = .ok xs ∧ ∃ ys, (eval b s).result = .ok ys ∧ xs ≠ [] ∧ ys ≠ [] ∧
      zipSlots op.apply xs ys = v := by
  simp only [eval, Traced.result_bind_ok, Eval.need_ok, Traced.result_pure, Except.ok.injEq,
    and_assoc, exists_and_left, exists_eq_left']

theorem eval_compare_ok {c : Comparator} : (eval (compare c a b) s).result = .ok v ↔
    ∃ xs, (eval a s).result = .ok xs ∧ ∃ ys, (eval b s).result = .ok ys ∧ xs ≠ [] ∧ ys ≠ [] ∧
      zipSlots (fun x y => truth (c.holds x y)) xs ys = v := by
  simp only [eval, Traced.result_bind_ok, Eval.need_ok, Traced.result_pure, Except.ok.injEq,
    and_assoc, exists_and_left, exists_eq_left']

theorem eval_unary_ok {op : UnaryOperator} : (eval (unary op a) s).result = .ok v ↔
    ∃ xs, (eval a s).result = .ok xs ∧ xs ≠ [] ∧ xs.map op.apply = v := by
  simp only [eval, Traced.result_bind_ok, Eval.need_ok, Traced.result_pure, Except.ok.injEq,
    and_assoc, exists_and_left, exists_eq_left']

theorem eval_bind_ok {name : String} : (eval (bind name a b) s).result = .ok v ↔
    ∃ xs, (eval a s).result = .ok xs ∧ (eval b (s.bind name xs)).result = .ok v := by
  simp only [eval, Traced.result_bind_ok]

theorem eval_choose_ok : (eval (choose condition yes no) s).result = .ok v ↔
    ∃ cs, (eval condition s).result = .ok cs ∧ cs ≠ [] ∧ ∃ xs, (eval yes s).result = .ok xs ∧
      xs ≠ [] ∧ ∃ ys, (eval no s).result = .ok ys ∧ ys ≠ [] ∧
      mapSlots (fun i flag => if isTrue flag then slot xs i else slot ys i) cs = v := by
  simp only [eval, Traced.result_bind_ok, Eval.need_ok, Traced.result_pure, Except.ok.injEq,
    and_assoc, exists_and_left, exists_eq_left']

theorem evaluate_ok : (a.evaluate s).result = .ok v ↔ (eval a s).result = .ok v ∧ v ≠ [] := by
  simp only [evaluate, Traced.result_bind_ok, Eval.need_ok]
  constructor
  · rintro ⟨xs, h, hne, rfl⟩
    exact ⟨h, hne⟩
  · rintro ⟨h, hne⟩
    exact ⟨v, h, hne, rfl⟩

end Forms

/-- **Edges that are left out, repeated or reordered** make no difference to the values of the
others: with selected edges only, a slot-wise form has the values that it has for all of them. -/
theorem eval_aligned {scope : Set String} {e : Expr} (he : e.SlotWise scope)
    (hs : Selection n positions) {s t : Surroundings} (h : s.Selects n positions scope t)
    {v : List Float} (hv : (eval e s).result = .ok v) :
    ∃ w, (eval e t).result = .ok w ∧ Aligned n positions v w := by
  induction he generalizing s t v with
  | literal x =>
    obtain rfl := Except.ok.inj hv
    exact ⟨[x], rfl, .single x⟩
  | edgeConstant name =>
    simp only [eval, h.edges.2] at hv ⊢
    exact Eval.column_aligned h.edges.1 hs hv
  | parentValue property =>
    simp only [eval, h.refs.2] at hv ⊢
    exact Eval.column_aligned h.refs.1 hs hv
  | rootValue property =>
    simp only [eval, h.root] at hv ⊢
    obtain ⟨x, -, hx⟩ := Traced.result_bind_ok.1 hv
    obtain rfl := Except.ok.inj hx
    exact ⟨[x], hv, .single x⟩
  | resultValue property =>
    simp only [eval, h.results] at hv ⊢
    obtain ⟨x, -, hx⟩ := Traced.result_bind_ok.1 hv
    obtain rfl := Except.ok.inj hx
    exact ⟨[x], hv, .single x⟩
  | hasTag tag which =>
    simp only [eval, Surroundings.hasTag, h.tags, h.tagConstants] at hv ⊢
    obtain ⟨x, -, hx⟩ := Traced.result_bind_ok.1 hv
    obtain rfl := Except.ok.inj hx
    exact ⟨[x], hv, .single x⟩
  | arithmetic op _ _ iha ihb =>
    obtain ⟨xs, hxs, ys, hys, -, -, rfl⟩ := eval_arithmetic_ok.1 hv
    obtain ⟨xs', hxs', hx⟩ := iha h hxs
    obtain ⟨ys', hys', hy⟩ := ihb h hys
    exact ⟨_, eval_arithmetic_ok.2 ⟨xs', hxs', ys', hys', (hx.ne_nil hs).2, (hy.ne_nil hs).2, rfl⟩,
      hx.zipSlots hs op.apply hy⟩
  | compare c _ _ iha ihb =>
    obtain ⟨xs, hxs, ys, hys, -, -, rfl⟩ := eval_compare_ok.1 hv
    obtain ⟨xs', hxs', hx⟩ := iha h hxs
    obtain ⟨ys', hys', hy⟩ := ihb h hys
    exact ⟨_, eval_compare_ok.2 ⟨xs', hxs', ys', hys', (hx.ne_nil hs).2, (hy.ne_nil hs).2, rfl⟩,
      hx.zipSlots hs _ hy⟩
  | unary op _ iha =>
    obtain ⟨xs, hxs, -, rfl⟩ := eval_unary_ok.1 hv
    obtain ⟨xs', hxs', hx⟩ := iha h hxs
    exact ⟨_, eval_unary_ok.2 ⟨xs', hxs', (hx.ne_nil hs).2, rfl⟩, hx.map hs op.apply⟩
  | bind name _ _ ihvalue ihblock =>
    obtain ⟨xs, hxs, hv⟩ := eval_bind_ok.1 hv
    obtain ⟨xs', hxs', hx⟩ := ihvalue h hxs
    obtain ⟨w, hw, hvw⟩ := ihblock (h.bind name hx) hv
    exact ⟨w, eval_bind_ok.2 ⟨xs', hxs', hw⟩, hvw⟩
  | var hname =>
    obtain ⟨w, hw, hvw⟩ := h.bindings _ hname v (Eval.found_ok.1 hv)
    exact ⟨w, Eval.found_ok.2 hw, hvw⟩

variable {s : Surroundings}

theorem selects_select {scope : Set String} (hedges : s.edges.length = n)
    (hrefs : s.refs.length = n)
    (hbindings : ∀ name ∈ scope, s.bindings.get? name = none) (positions : List ℕ) :
    s.Selects n positions scope (s.select positions) where
  edges := ⟨hedges, rfl⟩
  refs := ⟨hrefs, rfl⟩
  root := rfl
  results := rfl
  tags := rfl
  tagConstants := rfl
  bindings name hname xs hxs := by simp [hbindings name hname] at hxs

/-- **The slot-wise forms treat every edge by itself.** A whole expression of such forms has one
value, or one for each edge. With one edge alone, it has the value of that edge; and with the edges
and their refs in another order, it has the same values in that order. -/
theorem evaluate_slotWise {e : Expr} (he : e.SlotWise Set.univ) (hn : 1 ≤ n)
    (hedges : s.edges.length = n) (hrefs : s.refs.length = n) (hbindings : s.bindings = ∅)
    {v : List Float} (hv : (e.evaluate s).result = .ok v) :
    (v.length = 1 ∨ v.length = n) ∧
    (∀ i < n, (e.evaluate (s.select [i])).result = .ok [slot v i]) ∧
    ∀ positions : List ℕ, positions.Perm (List.range n) →
      ∃ w, (e.evaluate (s.select positions)).result = .ok w ∧ w.length = v.length ∧
        ∀ j i, positions[j]? = some i → slot w j = slot v i := by
  obtain ⟨hv, -⟩ := evaluate_ok.1 hv
  have hselect : ∀ positions, Selection n positions →
      ∃ w, (e.evaluate (s.select positions)).result = .ok w ∧ Aligned n positions v w := by
    intro positions hs
    have h : s.Selects n positions Set.univ (s.select positions) :=
      selects_select hedges hrefs (fun name _ => hbindings ▸ rfl) positions
    obtain ⟨w, hw, hvw⟩ := eval_aligned he hs h hv
    exact ⟨w, evaluate_ok.2 ⟨hw, (hvw.ne_nil hs).2⟩, hvw⟩
  refine ⟨?_, fun i hi => ?_, fun positions hperm => ?_⟩
  · obtain ⟨w, -, hvw⟩ := hselect _ (.of_perm hn (.refl _))
    exact hvw.wide
  · obtain ⟨w, hw, hvw⟩ := hselect [i] (.singleton hi)
    rw [hw, hvw.eq_singleton]
  · obtain ⟨w, hw, hvw⟩ := hselect positions (.of_perm hn hperm)
    have hlength : positions.length = n := by simpa using hperm.length_eq
    refine ⟨w, hw, ?_, hvw.slots⟩
    rcases hvw.shape with ⟨hl, hr⟩ | ⟨hl, hr⟩ <;> omega

/-- Half the flow of each tributary, bound to a variable, and the rain, by the share of its edge. -/
theorem evaluate_slotWise_tributaries :
    let e : Expr := bind "half" (arithmetic .divide (parentValue "flow") (literal [2.0]))
      (arithmetic .multiply (edgeConstant "share") (arithmetic .add (var "half") (rootValue "rain")))
    let s : Surroundings :=
      { edges := [.ofList [("share", 1.0)], .ofList [("share", 2.0)], .ofList [("share", 3.0)]]
        refs := [.ofList [("flow", 2.0)], .ofList [("flow", 4.0)], .ofList [("flow", 6.0)]]
        root := .ofList [("rain", 1.0)] }
    (e.evaluate s).result = .ok [2.0, 6.0, 12.0] ∧
      (e.evaluate (s.select [1])).result = .ok [6.0] ∧
      ∃ w, (e.evaluate (s.select [2, 0, 1])).result = .ok w ∧ w.length = 3 ∧ slot w 0 = 12.0 := by
  intro e s
  have he : e.SlotWise Set.univ :=
    .bind _ (.arithmetic _ (.parentValue _) (.literal _))
      (.arithmetic _ (.edgeConstant _)
        (.arithmetic _ (.var (Set.mem_insert _ _)) (.rootValue _)))
  have hv : (e.evaluate s).result = .ok [2.0, 6.0, 12.0] := by decide +kernel
  obtain ⟨-, halone, hpermuted⟩ := evaluate_slotWise (n := 3) he (by decide) rfl rfl rfl hv
  obtain ⟨w, hw, hlength, hslots⟩ := hpermuted [2, 0, 1] (by decide)
  exact ⟨hv, halone 1 (by decide), w, hw, hlength, hslots 0 2 rfl⟩

/-! ## Choices -/

/-- What is chosen at a position: the one value or the other, by the flag there. -/
def choice (flags xs ys : List Float) (i : ℕ) : Float :=
  if isTrue (slot flags i) then slot xs i else slot ys i

/-- **A choice is slot-wise where its flags are.** One edge alone gives what is chosen at its
position. All edges together give what is chosen at each of them if there is a flag for each of
them, or if there is one flag and it chooses one value. But one flag never chooses more than the
first value, however many there are to choose from: the choice is as long as its flags. -/
theorem evaluate_choose {condition yes no : Expr} (hcondition : condition.SlotWise ∅)
    (hyes : yes.SlotWise ∅) (hno : no.SlotWise ∅) (hn : 1 ≤ n) (hedges : s.edges.length = n)
    (hrefs : s.refs.length = n) {flags xs ys : List Float}
    (hflags : (condition.evaluate s).result = .ok flags) (hxs : (yes.evaluate s).result = .ok xs)
    (hys : (no.evaluate s).result = .ok ys) :
    (∀ i < n, ((choose condition yes no).evaluate (s.select [i])).result =
      .ok [choice flags xs ys i]) ∧
    ∃ v, ((choose condition yes no).evaluate s).result = .ok v ∧
      (flags.length = n ∧ v.length = n ∧ (∀ i < n, slot v i = choice flags xs ys i) ∨
        flags.length = 1 ∧ v = [choice flags xs ys 0] ∧
          ((if isTrue (slot flags 0) then xs else ys).length = 1 →
            ∀ i < n, slot v i = choice flags xs ys i)) := by
  obtain ⟨hflags, hflagsne⟩ := evaluate_ok.1 hflags
  obtain ⟨hxs, hxsne⟩ := evaluate_ok.1 hxs
  obtain ⟨hys, hysne⟩ := evaluate_ok.1 hys
  have hselects : ∀ positions, s.Selects n positions ∅ (s.select positions) :=
    selects_select hedges hrefs (by simp)
  refine ⟨fun i hi => ?_, _, evaluate_ok.2 ⟨eval_choose_ok.2
    ⟨flags, hflags, hflagsne, xs, hxs, hxsne, ys, hys, hysne, rfl⟩, ?_⟩, ?_⟩
  · have hs : Selection n [i] := .singleton hi
    obtain ⟨flags', hflags', hflag⟩ := eval_aligned hcondition hs (hselects [i]) hflags
    obtain ⟨xs', hxs', hx⟩ := eval_aligned hyes hs (hselects [i]) hxs
    obtain ⟨ys', hys', hy⟩ := eval_aligned hno hs (hselects [i]) hys
    rw [hflag.eq_singleton] at hflags'
    rw [hx.eq_singleton] at hxs'
    rw [hy.eq_singleton] at hys'
    refine evaluate_ok.2 ⟨eval_choose_ok.2 ⟨_, hflags', by simp, _, hxs', by simp, _, hys', by simp,
      ?_⟩, by simp⟩
    simp [mapSlots, choice, slot_singleton]
  · rw [← List.length_pos_iff, length_mapSlots]
    exact List.length_pos_iff.2 hflagsne
  · obtain ⟨_, -, haligned⟩ := eval_aligned hcondition (.of_perm hn (.refl _)) (hselects _) hflags
    rcases haligned.wide with hlength | hlength
    · obtain ⟨flag, rfl⟩ := List.length_eq_one_iff.1 hlength
      refine Or.inr ⟨rfl, by simp [mapSlots, choice, slot_singleton], fun hone i _ => ?_⟩
      simp only [slot_singleton] at hone
      simp only [mapSlots, choice, List.zipIdx_singleton, List.map_cons, List.map_nil,
        slot_singleton]
      -- the branch that is chosen is one value, which is there at every position
      split at hone <;> obtain ⟨x, rfl⟩ := List.length_eq_one_iff.1 hone <;>
        simp [*, slot_singleton]
    · refine Or.inl ⟨hlength, ?_, fun i hi => ?_⟩
      · rw [length_mapSlots, hlength]
      · rw [slot_mapSlots _ hflagsne, hlength, Nat.mod_eq_of_lt hi, choice]

/-- Toll on the deep reaches only, by the width of each reach: a flag for every edge. -/
theorem evaluate_choose_reaches :
    let e : Expr := choose (compare .greater (edgeConstant "depth") (literal [2.0]))
      (arithmetic .multiply (edgeConstant "width") (rootValue "toll")) (literal [0.0])
    let s : Surroundings :=
      { edges := [.ofList [("depth", 3.0), ("width", 5.0)], .ofList [("depth", 1.0), ("width", 7.0)]]
        refs := [∅, ∅], root := .ofList [("toll", 2.0)] }
    (e.evaluate (s.select [0])).result = .ok [10.0] ∧
      (e.evaluate (s.select [1])).result = .ok [0.0] ∧ (e.evaluate s).result = .ok [10.0, 0.0] := by
  intro e s
  have hedge : ∀ name, (edgeConstant name).SlotWise ∅ := fun name => .edgeConstant name
  have hflags : ((compare .greater (edgeConstant "depth") (literal [2.0])).evaluate s).result =
      .ok [truth true, truth false] := by decide +kernel
  have hxs : ((arithmetic .multiply (edgeConstant "width") (rootValue "toll")).evaluate s).result =
      .ok [10.0, 14.0] := by decide +kernel
  have hys : ((literal [0.0]).evaluate s).result = .ok [0.0] := by decide +kernel
  obtain ⟨halone, -⟩ := evaluate_choose (n := 2) (.compare _ (hedge _) (.literal _))
    (.arithmetic _ (hedge _) (.rootValue _)) (.literal _) (by decide) rfl rfl hflags hxs hys
  have hchoice : choice [truth true, truth false] [10.0, 14.0] [0.0] 0 = 10.0 ∧
      choice [truth true, truth false] [10.0, 14.0] [0.0] 1 = 0.0 := by decide +kernel
  refine ⟨?_, ?_, by decide +kernel⟩
  · rw [halone 0 (by decide), hchoice.1]
  · rw [halone 1 (by decide), hchoice.2]

/-- **A test of a tag chooses for the first edge only:** by itself the second edge has the value 2,
but together with the first one it has none. -/
theorem choose_drops_second_edge :
    let condition : Expr := hasTag "toll" .all
    let e : Expr := choose condition (edgeConstant "width") (literal [0.0])
    let s : Surroundings :=
      { edges := [.ofList [("width", 1.0)], .ofList [("width", 2.0)]], refs := [∅, ∅]
        tags := ⟨["toll"], ["toll"]⟩, tagConstants := .ofList [("toll", ∅)] }
    (condition.evaluate s).result = .ok [truth true] ∧
      ((edgeConstant "width").evaluate s).result = .ok [1.0, 2.0] ∧
      ((literal [0.0]).evaluate s).result = .ok [0.0] ∧
      (e.evaluate (s.select [1])).result = .ok [2.0] ∧ (e.evaluate s).result = .ok [1.0] ∧
      slot [1.0] 1 ≠ choice [truth true] [1.0, 2.0] [0.0] 1 := by
  decide +kernel

end Expr

end ValuedGraph
