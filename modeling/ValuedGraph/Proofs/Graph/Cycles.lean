import Mathlib.Data.Set.Finite.Basic
import ValuedGraph.Proofs.Graph.Completeness

/-!
# Cycles

A sort emits exactly the nodes that no cycle leads to. What is emitted stands behind all nodes that
lead to it, so it is not on a cycle; and what is left over always has a node in front of it that is
left over, too, which only goes on forever around a cycle.

* `Adjacency.Acyclic`, `Adjacency.Caught`: graphs without cycles, and the nodes that lie on a cycle
  or behind one.
* `exists_cycle_of_forall_exists`: in a finite set without a first element there is a cycle.
* `Adjacency.Ordered.not_caught`, `Adjacency.caught_of_not_emitted`: **what is emitted, and what is
  left over.**
* `Adjacency.exists_order_iff`: an order is found if there is no cycle, and only then.
* `Adjacency.isOrder_iff`, `Adjacency.exists_isOrder_iff`: **the check of orders,** and what it
  certifies.
* `Adjacency.order_lists_or_reports`: **orders and reports of cycles.**
-/

namespace ValuedGraph

open Relation

/-- **If every element of a list has one that leads to it,** there is a cycle in front of every
element. -/
theorem exists_cycle_of_forall_exists {α : Type} [DecidableEq α] {r : α → α → Prop} {l : List α}
    (h : ∀ y ∈ l, ∃ x ∈ l, r x y) {y : α} (hy : y ∈ l) :
    ∃ c, TransGen r c c ∧ ReflTransGen r c y := by
  by_contra hnone
  push Not at hnone
  -- without a cycle, the elements in front of the given one are ordered by paths
  let Front := { x // x ∈ l ∧ ReflTransGen r x y }
  have hfinite : Finite Front := (l.finite_toSet.subset fun _ hx => hx.1).to_subtype
  have htrans : IsTrans Front fun a b => TransGen r a b := ⟨fun _ _ _ => TransGen.trans⟩
  have hirrefl : Std.Irrefl fun a b : Front => TransGen r a b :=
    ⟨fun a ha => hnone a ha a.2.2⟩
  have hwf : WellFounded fun a b : Front => TransGen r a b :=
    Finite.wellFounded_of_trans_of_irrefl _
  -- so one of them would be first, but every one has another one in front of it
  refine hwf.induction (C := fun _ => False) ⟨y, hy, .refl⟩ fun ⟨z, hz, hpath⟩ ih => ?_
  obtain ⟨x, hx, hr⟩ := h z hz
  exact ih ⟨x, hx, ReflTransGen.head hr hpath⟩ (TransGen.single hr)

namespace Adjacency

variable {g : Adjacency} {x y : String} {l : List String}

/-- **An edge** leads from a node to each of its targets. -/
def Leads (g : Adjacency) (x y : String) : Prop := y ∈ g.targets x

/-- **A graph without cycles:** no path of edges leads from a node to itself. -/
def Acyclic (g : Adjacency) : Prop := ∀ x, ¬ TransGen g.Leads x x

/-- **A node that lies on a cycle or can be reached from one.** -/
def Caught (g : Adjacency) (x : String) : Prop :=
  ∃ c, TransGen g.Leads c c ∧ ReflTransGen g.Leads c x

/-- A node on a cycle is caught by it. -/
theorem caught_of_transGen (h : TransGen g.Leads x x) : g.Caught x := ⟨x, h, .refl⟩

theorem acyclic_iff : g.Acyclic ↔ ∀ x, ¬ g.Caught x :=
  ⟨fun h _ ⟨c, hc, _⟩ => h c hc, fun h x hx => h x (caught_of_transGen hx)⟩

namespace Ordered

/-- Whatever leads to a member of an ordered list stands in front of it. -/
theorem idxOf_lt (h : g.Ordered l) (hnd : l.Nodup) (hy : y ∈ l) (hxy : TransGen g.Leads x y) :
    x ∈ l ∧ l.idxOf x < l.idxOf y := by
  have hstep : ∀ {x y}, y ∈ l → g.Leads x y → x ∈ l ∧ l.idxOf x < l.idxOf y := by
    intro x y hy hxy
    obtain ⟨before, after, rfl⟩ := List.append_of_mem hy
    have hx := h before y after rfl x hxy
    have hybefore : y ∉ before := fun hm => (List.nodup_append.1 hnd).2.2 y hm y (by simp) rfl
    refine ⟨List.mem_append_left _ hx, ?_⟩
    rw [List.idxOf_append_of_mem hx, List.idxOf_append_of_notMem hybefore, List.idxOf_cons_self,
      Nat.add_zero]
    exact List.idxOf_lt_length_of_mem hx
  induction hxy using TransGen.head_induction_on with
  | single hxy => exact hstep hy hxy
  | head hxz _ ih =>
    obtain ⟨hz, hlt⟩ := ih
    obtain ⟨hx, hlt'⟩ := hstep hz hxz
    exact ⟨hx, hlt'.trans hlt⟩

/-- **The members of an ordered list are not caught** by a cycle. -/
theorem not_caught (h : g.Ordered l) (hnd : l.Nodup) (hy : y ∈ l) : ¬ g.Caught y := by
  rintro ⟨c, hc, hpath⟩
  have hcl : c ∈ l := by
    rcases reflTransGen_iff_eq_or_transGen.1 hpath with rfl | hpath
    · exact hy
    · exact (h.idxOf_lt hnd hy hpath).1
  exact lt_irrefl _ (h.idxOf_lt hnd hcl hc).2

/-- **Every member of an ordered list stands in front of its targets.** -/
theorem mem_after (h : g.Ordered l) (hnd : l.Nodup) (hmem : ∀ x y, g.Leads x y → y ∈ l)
    {before after : List String} (hl : l = before ++ x :: after) (hxy : g.Leads x y) :
    y ∈ after := by
  have hrev : l.reverse = after.reverse ++ x :: before.reverse := by simp [hl]
  exact List.mem_reverse.1 (h.reverse hnd hmem hrev hxy)

end Ordered

/-- **What a sort does not emit** is caught by a cycle. -/
theorem caught_of_not_emitted (hy : y ∈ g.nodes)
    (hleft : y ∉ (g.emit g.nodes.length g.start).emitted) : g.Caught y := by
  have hs := sortOK_emit (g := g) g.nodes.length (sortOK_start g)
  have hwaiting := waiting_emit (g := g) g.nodes.length (sortOK_start g) (Nat.le_add_left _ _)
  set emitted := (g.emit g.nodes.length g.start).emitted
  -- at the end nothing is waiting, so a node that is left over has an edge from another one
  have hpred : ∀ y ∈ g.nodes.filter (· ∉ emitted),
      ∃ x ∈ g.nodes.filter (· ∉ emitted), g.Leads x y := by
    intro y hy
    obtain ⟨hyn, hye⟩ := List.mem_filter.1 hy
    by_contra hnone
    push Not at hnone
    have hzero : g.degree emitted y = 0 := degree_eq_zero fun x hx => by
      by_contra hxe
      exact hnone x (List.mem_filter.2 ⟨mem_nodes_of_mem_targets hx, by simpa using hxe⟩) hx
    have hfree := (hs.free y hyn).2 hzero
    rw [hwaiting, List.append_nil] at hfree
    exact absurd hfree (by simpa using hye)
  exact exists_cycle_of_forall_exists hpred (List.mem_filter.2 ⟨hy, by simpa using hleft⟩)

/-- **What a sort emits** is not caught. -/
theorem not_caught_of_emitted (fuel : ℕ) (hy : y ∈ (g.emit fuel g.start).emitted) :
    ¬ g.Caught y := by
  have hs := sortOK_emit (g := g) fuel (sortOK_start g)
  exact hs.ordered.not_caught (List.nodup_append.1 hs.nodup).1 hy

/-- **The report of cycles** has the nodes that are caught, once each and in the order in which they
appear. -/
theorem order_error {c : Cyclic} (h : g.order = .error c) : c.remaining.Sublist g.nodes ∧
    c.remaining ≠ [] ∧ ∀ y, y ∈ c.remaining ↔ g.Caught y := by
  simp only [order] at h
  split at h
  · cases h
  rename_i hne
  obtain rfl := Except.error.inj h
  refine ⟨List.filter_sublist, hne, fun y => ?_⟩
  simp only [List.mem_filter, Bool.not_eq_true', ← Bool.not_eq_true, List.contains_iff_mem]
  constructor
  · rintro ⟨hy, hleft⟩
    exact caught_of_not_emitted hy hleft
  · intro hy
    refine ⟨?_, fun hemitted => not_caught_of_emitted _ hemitted hy⟩
    -- a caught node is the end of an edge
    obtain ⟨c, hc, hpath⟩ := hy
    obtain ⟨z, -, hz⟩ := TransGen.tail'_iff.1 (TransGen.trans_left hc hpath)
    exact mem_nodes.2 (Or.inr ⟨z, hz⟩)

/-- **An order is found if there is no cycle,** and only then. -/
theorem exists_order_iff : (∃ l, g.order = .ok l) ↔ g.Acyclic := by
  rw [acyclic_iff]
  constructor
  · rintro ⟨l, hl⟩ y ⟨c, hc, hpath⟩
    obtain ⟨hnd, hmem, hord⟩ := order_ok hl
    obtain ⟨z, -, hz⟩ := TransGen.tail'_iff.1 (TransGen.trans_left hc hpath)
    exact hord.not_caught hnd ((hmem y).2 (mem_nodes.2 (Or.inr ⟨z, hz⟩))) ⟨c, hc, hpath⟩
  · intro h
    cases horder : g.order with
    | ok l => exact ⟨l, rfl⟩
    | error c =>
      obtain ⟨-, hne, hmem⟩ := order_error horder
      obtain ⟨y, hy⟩ := List.exists_mem_of_ne_nil _ hne
      exact absurd ((hmem y).1 hy) (h y)

/-- A list without repetitions has nothing to lose. -/
theorem length_eraseDups_eq_iff : l.eraseDups.length = l.length ↔ l.Nodup := by
  constructor
  · intro h
    have hsub : l.eraseDups.Subperm l :=
      (nodup_eraseDups l).subperm fun x hx => List.mem_eraseDups.1 hx
    exact (hsub.perm_of_length_le h.ge).nodup_iff.1 (nodup_eraseDups l)
  · intro h
    rw [eraseDups_of_nodup h]

/-- What has an earlier place than a member stands in front of it. -/
theorem mem_before_of_idxOf_lt {before after : List String}
    (h : (before ++ y :: after).idxOf x < (before ++ y :: after).idxOf y) : x ∈ before := by
  by_contra hx
  rw [List.idxOf_append_of_notMem hx] at h
  by_cases hy : y ∈ before
  · have hlt := List.idxOf_lt_length_of_mem hy
    rw [List.idxOf_append_of_mem hy] at h
    omega
  · rw [List.idxOf_append_of_notMem hy, List.idxOf_cons_self] at h
    omega

/-- **What passes the check of orders:** a list with every node once, and every node behind all that
lead to it. -/
theorem isOrder_iff :
    g.isOrder l = true ↔ l.Nodup ∧ (∀ y, y ∈ l ↔ y ∈ g.nodes) ∧ g.Ordered l := by
  simp only [isOrder, Bool.and_eq_true, beq_iff_eq, List.all_eq_true, List.contains_iff_mem,
    decide_eq_true_eq, length_eraseDups_eq_iff]
  constructor
  · rintro ⟨⟨⟨hnd, hall⟩, hnodes⟩, hlt⟩
    refine ⟨hnd, fun y => ⟨hnodes y, hall y⟩, ?_⟩
    rintro before y after rfl x hxy
    obtain ⟨ts, hts, hy⟩ := mem_targets.1 hxy
    exact mem_before_of_idxOf_lt (hlt (x, ts) hts y hy)
  · rintro ⟨hnd, hmem, hord⟩
    refine ⟨⟨⟨hnd, fun y => (hmem y).2⟩, fun y => (hmem y).1⟩, fun e he y hy => ?_⟩
    have hxy : y ∈ g.targets e.1 := mem_targets.2 ⟨e.2, he, hy⟩
    have hyl := (hmem y).2 (mem_nodes.2 (Or.inr ⟨e.1, hxy⟩))
    exact (hord.idxOf_lt hnd hyl (.single hxy)).2

/-- **A list that passes the check certifies that there is no cycle,** and every order that is found
passes it. -/
theorem exists_isOrder_iff : (∃ l, g.isOrder l = true) ↔ g.Acyclic := by
  rw [← exists_order_iff]
  constructor
  · rintro ⟨l, h⟩
    obtain ⟨-, hmem, hord⟩ := isOrder_iff.1 h
    exact exists_order hord fun y => (hmem y).2
  · rintro ⟨l, h⟩
    exact ⟨l, isOrder_iff.2 (order_ok h)⟩

/-- **Orders and reports of cycles.** In a graph without cycles an order is found, which has every
node once, whether it is listed or only a target, and every node in front of all its targets. In a
graph with a cycle, the nodes that lie on a cycle or can be reached from one are reported, once each
and in the order in which they appear. -/
theorem order_lists_or_reports (g : Adjacency) :
    (g.Acyclic → ∃ l, g.order = .ok l ∧ l.Nodup ∧ (∀ y, y ∈ l ↔ y ∈ g.keys ∨ ∃ x, g.Leads x y) ∧
      ∀ before x after, l = before ++ x :: after → ∀ y, g.Leads x y → y ∈ after) ∧
    (¬ g.Acyclic → ∃ remaining, g.order = .error ⟨remaining⟩ ∧ remaining.Nodup ∧
      remaining.Sublist g.nodes ∧
      ∀ y, y ∈ remaining ↔ ∃ c, TransGen g.Leads c c ∧ ReflTransGen g.Leads c y) := by
  constructor
  · intro h
    obtain ⟨l, hl⟩ := exists_order_iff.2 h
    obtain ⟨hnd, hmem, hord⟩ := order_ok hl
    have hnodes : ∀ y, y ∈ l ↔ y ∈ g.keys ∨ ∃ x, g.Leads x y := fun y => (hmem y).trans mem_nodes
    refine ⟨l, hl, hnd, hnodes, fun before x after hsplit y hy => ?_⟩
    exact hord.mem_after hnd (fun x y hxy => (hnodes y).2 (Or.inr ⟨x, hxy⟩)) hsplit hy
  · intro h
    cases horder : g.order with
    | ok l => exact absurd (exists_order_iff.1 ⟨l, horder⟩) h
    | error c =>
      obtain ⟨hsub, -, hmem⟩ := order_error horder
      exact ⟨c.remaining, rfl, (nodup_eraseDups _).sublist hsub, hsub, hmem⟩

/-- A river that parts and joins again; one arm is written twice. -/
def delta : Adjacency :=
  .ofList [("spring", ["left", "right", "left"]), ("left", ["sea"]), ("right", ["sea"])]

/-- A whirl that a brook flows into, and a pool behind it. -/
def whirl : Adjacency := .ofList [("in", ["out", "pool"]), ("brook", ["in"]), ("out", ["in"])]

/-- The delta has an order, and the whirl is reported together with the pool. -/
theorem order_lists_or_reports_water :
    (delta.Acyclic ∧ ∃ l, delta.order = .ok l ∧ l.Nodup ∧
      (∀ y, y ∈ l ↔ y ∈ delta.keys ∨ ∃ x, delta.Leads x y) ∧
      ∀ before x after, l = before ++ x :: after → ∀ y, delta.Leads x y → y ∈ after) ∧
    (¬ whirl.Acyclic ∧ ∃ remaining, whirl.order = .error ⟨remaining⟩ ∧ remaining.Nodup ∧
      remaining.Sublist whirl.nodes ∧
      ∀ y, y ∈ remaining ↔ ∃ c, TransGen whirl.Leads c c ∧ ReflTransGen whirl.Leads c y) := by
  have hdelta : delta.Acyclic :=
    exists_isOrder_iff.1 ⟨["spring", "right", "left", "sea"], by decide⟩
  have hin : "out" ∈ whirl.targets "in" := by decide
  have hout : "in" ∈ whirl.targets "out" := by decide
  have hwhirl : ¬ whirl.Acyclic := fun h => h "in" (.tail (.single hin) hout)
  exact ⟨⟨hdelta, (order_lists_or_reports delta).1 hdelta⟩,
    ⟨hwhirl, (order_lists_or_reports whirl).2 hwhirl⟩⟩

example : whirl.order = .error ⟨["in", "out", "pool"]⟩ := by rfl

end Adjacency

namespace Digraph

variable {edges : List (String × String)} {nodes : List String} {x y : String}

/-- The edges of a graph of edges, seen from their sources. -/
theorem leads_ofEdges :
    (ofEdges edges nodes).adjacency.Leads x y ↔ (x, y) ∈ (ofEdges edges nodes).edges :=
  mem_targets_ofEdges.trans mem_edges_ofEdges.symm

/-- **In a graph that has an order** no node depends on itself. -/
theorem not_transGen_self {l : List String} (h : (ofEdges edges nodes).order = .ok l) :
    ¬ TransGen (fun x y => (x, y) ∈ (ofEdges edges nodes).edges) x x := by
  have hacyclic : (ofEdges edges nodes).adjacency.Acyclic := Adjacency.exists_order_iff.1 ⟨l, h⟩
  exact fun hx => hacyclic x (TransGen.mono (fun _ _ => leads_ofEdges.2) _ _ hx)

end Digraph

end ValuedGraph
