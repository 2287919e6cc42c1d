import Mathlib.Algebra.Ring.Nat
import Mathlib.Data.List.Basic
import ValuedGraph.Graph.Order

/-!
# The order that a sort emits

A sort keeps, for every node, the number of edges that lead to it from nodes still to come.
The nodes without such edges are those that are emitted or waiting (`SortOK`), so whatever is
emitted stands behind all that lead to it.

* `Adjacency.Ordered`: **every node of a list stands behind all nodes that lead to it.**
* `Adjacency.sortOK_emit`: the invariant, along the whole sort.
* `Adjacency.order_ok`: an order that is found has every node once, and is ordered.
-/

namespace ValuedGraph

/-- What holds of every member of a list that stands behind members of which it holds. -/
theorem forall_mem_of_prefix {α : Type} {l : List α} {p : α → Prop}
    (h : ∀ before a after, l = before ++ a :: after → (∀ b ∈ before, p b) → p a) :
    ∀ a ∈ l, p a := by
  have key : ∀ after before : List α, l = before ++ after → (∀ b ∈ before, p b) →
      ∀ a ∈ after, p a := by
    intro after
    induction after with
    | nil => intro _ _ _ a ha; simp at ha
    | cons a after ih =>
      intro before hl hbefore
      have ha := h before a after hl hbefore
      have hrest := ih (before ++ [a]) (by simp [hl]) fun b hb => by
        rcases List.mem_append.1 hb with hb | hb
        · exact hbefore b hb
        · rwa [List.mem_singleton.1 hb]
      intro b hb
      rcases List.mem_cons.1 hb with rfl | hb
      · exact ha
      · exact hrest b hb
  exact key l [] rfl (by simp)

/-- **A member of a list without repetitions has one place,** so what is in front of it is known. -/
theorem mem_before_iff {α : Type} {l before after : List α} {a b : α} (hnd : l.Nodup)
    (hl : l = before ++ a :: after) :
    (∃ before' after', l = before' ++ a :: after' ∧ b ∈ before') ↔ b ∈ before := by
  constructor
  · rintro ⟨before', after', hl', hb⟩
    rw [hl] at hnd
    obtain ⟨-, hback, hdisj⟩ := List.nodup_append.1 hnd
    have hbefore : a ∉ before := fun ha => hdisj a ha a (by simp) rfl
    have heq := (List.append_cons_inj_of_notMem hbefore (List.nodup_cons.1 hback).1).1
      (hl.symm.trans hl')
    exact heq.1 ▸ hb
  · exact fun hb => ⟨before, after, hl, hb⟩

/-- What relates every member of a list to those in front of it also does so with one more member
at the end. -/
theorem forall_split_snoc {α : Type} {l : List α} {a : α} {p : List α → α → Prop}
    (h : ∀ before b after, l = before ++ b :: after → p before b) (ha : p l a) :
    ∀ before b after, l ++ [a] = before ++ b :: after → p before b := by
  intro before b after hl
  rcases List.eq_nil_or_concat after with rfl | ⟨after', c, rfl⟩
  · obtain ⟨rfl, hb⟩ := List.append_inj' hl rfl
    obtain rfl : a = b := by simpa using hb
    exact ha
  · have hl : l ++ [a] = (before ++ b :: after') ++ [c] := by simpa using hl
    obtain ⟨hl, -⟩ := List.append_inj' hl rfl
    exact h before b after' hl

namespace Adjacency

variable {g : Adjacency} {x y : String}

/-- **Every node of a list stands behind all nodes that lead to it.** -/
def Ordered (g : Adjacency) (l : List String) : Prop :=
  ∀ before y after, l = before ++ y :: after → ∀ x, y ∈ g.targets x → x ∈ before

theorem ordered_nil : g.Ordered [] := by
  intro before y after h
  simp at h

/-- A node may be added behind all that lead to it. -/
theorem Ordered.snoc {l : List String} (h : g.Ordered l) (hy : ∀ x, y ∈ g.targets x → x ∈ l) :
    g.Ordered (l ++ [y]) := forall_split_snoc h hy

/-- Read backwards, every node of an ordered list stands behind its targets. -/
theorem Ordered.reverse {l : List String} (h : g.Ordered l) (hnd : l.Nodup)
    (hmem : ∀ x y, y ∈ g.targets x → y ∈ l) {before after : List String}
    (hl : l.reverse = before ++ x :: after) (hy : y ∈ g.targets x) : y ∈ before := by
  have hl : l = after.reverse ++ x :: before.reverse := by
    rw [← l.reverse_reverse, hl]
    simp
  have hx : x ∉ after.reverse := by
    rw [hl] at hnd
    exact fun hm => (List.nodup_append.1 hnd).2.2 x hm x (by simp) rfl
  have hyl := hmem x y hy
  rw [hl, List.mem_append, List.mem_cons] at hyl
  rcases hyl with hyl | rfl | hyl
  · -- a target in front of its node would need the node in front of it once more
    obtain ⟨front, back, hsplit⟩ := List.append_of_mem hyl
    have hmem := h front y (back ++ x :: before.reverse) (by rw [hl, hsplit]; simp) x hy
    exact absurd (hsplit ▸ List.mem_append_left _ hmem) hx
  · exact absurd (h after.reverse y before.reverse hl y hy) hx
  · exact List.mem_reverse.1 hyl

/-- The number of edges to a node from nodes that are not emitted. -/
def degree (g : Adjacency) (emitted : List String) (y : String) : Nat :=
  (g.entries.map fun e => if e.1 ∈ emitted then 0 else e.2.count y).sum

theorem mem_targets : y ∈ g.targets x ↔ ∃ ts, (x, ts) ∈ g.entries ∧ y ∈ ts := by
  unfold targets Table.getD
  constructor
  · intro h
    cases hx : g.get? x with
    | none => simp [hx] at h
    | some ts => exact ⟨ts, Table.get?_eq_some_iff.1 hx, by simpa [hx] using h⟩
  · rintro ⟨ts, hts, hy⟩
    simpa [Table.get?_eq_some_iff.2 hts] using hy

theorem mem_nodes : y ∈ g.nodes ↔ y ∈ g.keys ∨ ∃ x, y ∈ g.targets x := by
  unfold nodes
  rw [List.mem_eraseDups, List.mem_flatMap]
  simp only [List.mem_cons, mem_targets, Table.keys, List.mem_map]
  constructor
  · rintro ⟨e, he, rfl | hy⟩
    · exact Or.inl ⟨e, he, rfl⟩
    · exact Or.inr ⟨e.1, e.2, he, hy⟩
  · rintro (⟨e, he, rfl⟩ | ⟨x, ts, he, hy⟩)
    · exact ⟨e, he, Or.inl rfl⟩
    · exact ⟨(x, ts), he, Or.inr hy⟩

/-- A node without edges from nodes to come: all that lead to it are emitted. -/
theorem mem_of_degree_eq_zero {emitted : List String} (h : g.degree emitted y = 0)
    (hy : y ∈ g.targets x) : x ∈ emitted := by
  obtain ⟨ts, hts, hyt⟩ := mem_targets.1 hy
  by_contra hx
  have hzero := List.sum_eq_zero_iff_forall_eq_nat.1 h _ (List.mem_map_of_mem hts)
  simp only [hx, if_false] at hzero
  exact List.count_eq_zero.1 hzero hyt

/-- **Emitting a node** takes its edges away from the degrees. -/
theorem degree_snoc {emitted : List String} (hx : x ∉ emitted) (y : String) :
    g.degree (emitted ++ [x]) y + (g.targets x).count y = g.degree emitted y := by
  have key : ∀ l : List (String × List String), (l.map Prod.fst).Nodup →
      (l.map fun e => if e.1 ∈ emitted ++ [x] then 0 else e.2.count y).sum
          + ((l.lookup x).getD []).count y =
        (l.map fun e => if e.1 ∈ emitted then 0 else e.2.count y).sum := by
    intro l
    induction l with
    | nil => intro _; simp
    | cons e l ih =>
      obtain ⟨k, ts⟩ := e
      intro hnd
      simp only [List.map_cons, List.nodup_cons] at hnd
      have hl := ih hnd.2
      by_cases hk : x = k
      · subst hk
        -- no further entry belongs to the node, so the rest of the sum stays
        have hnone : l.lookup x = none := by
          cases ho : l.lookup x with
          | none => rfl
          | some us =>
            have hmem := (Table.lookup_eq_some_iff hnd.2).1 ho
            exact absurd (List.mem_map_of_mem (f := Prod.fst) hmem) hnd.1
        simp only [hnone, Option.getD_none, List.count_nil, Nat.add_zero] at hl
        simp only [List.map_cons, List.sum_cons, List.lookup_cons, hl]
        simp [hx]
        omega
      · have hk' : (x == k) = false := by simpa using hk
        have hmem : k ∈ emitted ++ [x] ↔ k ∈ emitted := by
          simp only [List.mem_append, List.mem_singleton, or_iff_left (fun e => hk (Eq.symm e))]
        simp only [List.map_cons, List.sum_cons, List.lookup_cons, hk', hmem]
        omega
  exact key g.entries g.nodup

/-- **What a sort keeps true:** the degrees count the edges from nodes to come, and the nodes
without any are those that are emitted or waiting, once each. -/
structure SortOK (g : Adjacency) (s : Sorting) : Prop where
  degrees : ∀ y, s.degrees.getD y 0 = g.degree s.emitted y
  nodup : (s.emitted ++ s.waiting).Nodup
  nodes : ∀ y ∈ s.emitted ++ s.waiting, y ∈ g.nodes
  free : ∀ y ∈ g.nodes, y ∈ s.emitted ++ s.waiting ↔ g.degree s.emitted y = 0
  ordered : g.Ordered s.emitted

/-- The degrees at the start count all edges. -/
theorem degree_nil (y : String) : g.degree [] y = g.allTargets.count y := by
  unfold degree allTargets Table.values
  rw [List.count_flatten, List.map_map]
  simp [Function.comp_def]

/-- **A sort starts** with the number of edges to each node. -/
theorem degrees_start (g : Adjacency) (y : String) :
    g.start.degrees.getD y 0 = g.allTargets.count y := by
  have hnd : ((g.nodes.map fun x => (x, g.allTargets.count x)).map Prod.fst).Nodup := by
    simpa [Function.comp_def, nodes] using nodup_eraseDups _
  change (Table.ofList (g.nodes.map fun x => (x, g.allTargets.count x))).getD y 0 = _
  unfold Table.getD
  by_cases hy : y ∈ g.nodes
  · have hget : (Table.ofList (g.nodes.map fun x => (x, g.allTargets.count x))).get? y =
        some (g.allTargets.count y) := by
      rw [Table.get?_eq_some_iff, Table.entries_ofList hnd, List.mem_map]
      exact ⟨y, hy, rfl⟩
    rw [hget, Option.getD_some]
  · have hget : (Table.ofList (g.nodes.map fun x => (x, g.allTargets.count x))).get? y = none := by
      rw [Table.get?_eq_none_iff, Table.mem_iff, Table.keys, Table.entries_ofList hnd]
      simpa [Function.comp_def] using hy
    rw [hget, Option.getD_none, eq_comm, List.count_eq_zero]
    -- whatever an edge leads to is a node
    intro hm
    obtain ⟨ts, hts, hyt⟩ := List.mem_flatten.1 hm
    obtain ⟨e, he, rfl⟩ := List.mem_map.1 hts
    exact hy (mem_nodes.2 (Or.inr ⟨e.1, mem_targets.2 ⟨e.2, he, hyt⟩⟩))

theorem sortOK_start (g : Adjacency) : SortOK g g.start where
  degrees y := (degrees_start g y).trans (degree_nil y).symm
  nodup := by
    change ([] ++ g.nodes.filter _).Nodup
    exact (nodup_eraseDups _).sublist List.filter_sublist
  nodes y hy := by
    change y ∈ [] ++ g.nodes.filter _ at hy
    exact (List.mem_filter.1 hy).1
  free y hy := by
    change y ∈ [] ++ g.nodes.filter _ ↔ g.degree [] y = 0
    rw [degree_nil]
    simp [hy]
  ordered := ordered_nil

theorem getD_release (s : Sorting) (t y : String) : (release s t).degrees.getD y 0 =
    if y = t then s.degrees.getD t 0 - 1 else s.degrees.getD y 0 := by
  simp only [release, Table.getD, Table.get?_insert]
  split <;> rfl

/-- Removing edges to a list of targets emits nothing. -/
theorem emitted_foldl_release (ts : List String) : ∀ s : Sorting,
    (ts.foldl release s).emitted = s.emitted := by
  induction ts with
  | nil => intro s; rfl
  | cons t ts ih => intro s; exact ih (release s t)

/-- Removing edges to a list of targets takes them away from the degrees. -/
theorem degrees_foldl_release (ts : List String) : ∀ (s : Sorting) (y : String),
    (ts.foldl release s).degrees.getD y 0 = s.degrees.getD y 0 - ts.count y := by
  induction ts with
  | nil => intro s y; simp
  | cons t ts ih =>
    intro s y
    rw [List.foldl_cons, ih, getD_release, List.count_cons]
    by_cases hy : y = t
    · subst hy
      simp only [if_true, beq_self_eq_true]
      omega
    · have hty : (t == y) = false := by simpa using Ne.symm hy
      rw [if_neg hy, hty]
      simp

/-- Removing edges to a list of targets: those whose last edge goes come to wait, once each. -/
theorem waiting_foldl_release (ts : List String) : ∀ s : Sorting,
    (∀ y, ts.count y ≤ s.degrees.getD y 0) →
      ∃ new, (ts.foldl release s).waiting = s.waiting ++ new ∧ new.Nodup ∧
        ∀ y, y ∈ new ↔ y ∈ ts ∧ s.degrees.getD y 0 = ts.count y := by
  induction ts with
  | nil => intro s _; exact ⟨[], by simp, List.nodup_nil, by simp⟩
  | cons t ts ih =>
    intro s hle
    have hcount : ∀ y, (t :: ts).count y = ts.count y + if t = y then 1 else 0 := by
      intro y
      simp [List.count_cons]
    -- the rest of the edges is still counted in the degrees
    have hle' : ∀ y, ts.count y ≤ (release s t).degrees.getD y 0 := by
      intro y
      have h := hle y
      rw [hcount] at h
      rw [getD_release]
      by_cases hy : y = t
      · subst hy; rw [if_pos rfl] at h ⊢; omega
      · rw [if_neg hy]; omega
    obtain ⟨new, hw, hnd, hnew⟩ := ih (release s t) hle'
    have ht := hle t
    rw [hcount, if_pos rfl] at ht
    refine ⟨(if s.degrees.getD t 0 - 1 = 0 then [t] else []) ++ new, ?_, ?_, ?_⟩
    · rw [List.foldl_cons, hw]
      simp only [release]
      split <;> simp
    · split
      · -- no edge to the target is left, so it does not come to wait a second time
        refine List.nodup_append.2 ⟨by simp, hnd, ?_⟩
        intro a ha b hb hab
        subst hab
        simp only [List.mem_singleton] at ha
        subst ha
        have hpos := List.count_pos_iff.2 ((hnew a).1 hb).1
        omega
      · simpa using hnd
    · intro y
      rw [List.mem_append, hnew, getD_release, hcount]
      by_cases hy : y = t
      · subst hy
        have hpos : y ∈ ts ↔ 0 < ts.count y := List.count_pos_iff.symm
        rw [hpos]
        by_cases h1 : s.degrees.getD y 0 - 1 = 0
        · rw [if_pos h1, if_pos rfl, if_pos rfl]
          simp only [List.mem_cons, true_or, true_and, true_iff]
          omega
        · rw [if_neg h1, if_pos rfl, if_pos rfl]
          simp only [List.not_mem_nil, false_or, List.mem_cons, true_or, true_and]
          omega
      · rw [if_neg hy, if_neg (Ne.symm hy)]
        have hne : y ∉ (if s.degrees.getD t 0 - 1 = 0 then [t] else []) := by
          split <;> simp [hy]
        simp [hne, hy]

/-- **Emitting a waiting node** keeps the invariant. -/
theorem sortOK_step {s : Sorting} (hs : SortOK g s) {waiting : List String}
    (hw : s.waiting = x :: waiting) :
    SortOK g ((g.targets x).foldl release { s with waiting, emitted := s.emitted ++ [x] }) := by
  have hnd := hs.nodup
  rw [hw] at hnd
  have hx : x ∉ s.emitted := fun hm => (List.nodup_append.1 hnd).2.2 x hm x (by simp) rfl
  have hxn : x ∈ g.nodes := hs.nodes x (by simp [hw])
  have hx0 : g.degree s.emitted x = 0 := (hs.free x hxn).1 (by simp [hw])
  have hsub := degree_snoc (g := g) hx
  have hold : ∀ y, y ∈ s.emitted ++ [x] ++ waiting ↔ y ∈ s.emitted ++ s.waiting := by
    intro y; rw [hw]; simp
  have hdg := degrees_foldl_release (g.targets x) { s with waiting, emitted := s.emitted ++ [x] }
  have hem := emitted_foldl_release (g.targets x) { s with waiting, emitted := s.emitted ++ [x] }
  obtain ⟨new, hwait, hnew, hmem⟩ :=
    waiting_foldl_release (g.targets x) { s with waiting, emitted := s.emitted ++ [x] } (fun y => by
      show _ ≤ s.degrees.getD y 0
      rw [hs.degrees, ← hsub]; omega)
  set s' := (g.targets x).foldl release { s with waiting, emitted := s.emitted ++ [x] }
  change s'.emitted = s.emitted ++ [x] at hem
  have hmem' : ∀ y, y ∈ new ↔ y ∈ g.targets x ∧ g.degree s.emitted y = (g.targets x).count y := by
    intro y; rw [hmem, ← hs.degrees]
  have hnode : ∀ y ∈ g.targets x, y ∈ g.nodes := fun y hy => mem_nodes.2 (Or.inr ⟨x, hy⟩)
  have hlist : s'.emitted ++ s'.waiting = s.emitted ++ [x] ++ waiting ++ new := by
    rw [hem, hwait, List.append_assoc (s.emitted ++ [x])]
  constructor
  case degrees =>
    intro y
    rw [hdg, hem]
    show s.degrees.getD y 0 - (g.targets x).count y = _
    rw [hs.degrees, ← hsub]
    omega
  case nodup =>
    rw [hlist]
    refine List.nodup_append.2 ⟨by simpa using hnd, hnew, ?_⟩
    intro a ha b hb hab
    subst hab
    -- a node that comes to wait had an edge left, so it was not waiting before
    obtain ⟨ht, hc⟩ := (hmem' a).1 hb
    have h0 := (hs.free a (hnode a ht)).1 ((hold a).1 ha)
    have hpos := List.count_pos_iff.2 ht
    omega
  case nodes =>
    intro y hy
    rw [hlist, List.mem_append, hold] at hy
    rcases hy with hy | hy
    · exact hs.nodes y hy
    · exact hnode y ((hmem' y).1 hy).1
  case free =>
    intro y hy
    rw [hlist, List.mem_append, hold, hs.free y hy, hmem', hem]
    have hdeg := hsub y
    have hpos : y ∈ g.targets x ↔ 0 < (g.targets x).count y := List.count_pos_iff.symm
    rw [hpos]
    omega
  case ordered =>
    rw [hem]
    exact hs.ordered.snoc fun z hz => mem_of_degree_eq_zero hx0 hz

/-- **Every state of a sort** keeps the invariant. -/
theorem sortOK_emit (fuel : Nat) : ∀ {s : Sorting}, SortOK g s → SortOK g (g.emit fuel s) := by
  induction fuel with
  | zero => intro s hs; exact hs
  | succ fuel ih =>
    intro s hs
    unfold emit
    split
    · exact hs
    · rename_i x waiting hw
      exact ih (sortOK_step hs hw)

/-- **An order that is found** has every node once, and every node behind all that lead to
it. -/
theorem order_ok {l : List String} (h : g.order = .ok l) :
    l.Nodup ∧ (∀ y, y ∈ l ↔ y ∈ g.nodes) ∧ g.Ordered l := by
  have hs := sortOK_emit (g := g) g.nodes.length (sortOK_start g)
  simp only [order] at h
  split at h
  · rename_i hnil
    obtain rfl := Except.ok.inj h
    refine ⟨(List.nodup_append.1 hs.nodup).1, ?_, hs.ordered⟩
    intro y
    constructor
    · intro hy; exact hs.nodes y (List.mem_append_left _ hy)
    · intro hy
      have := List.filter_eq_nil_iff.1 hnil y hy
      simpa using this
  · cases h

end Adjacency

end ValuedGraph
