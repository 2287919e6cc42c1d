import ValuedGraph.Model.Computation
import ValuedGraph.Proofs.Graph.Cycles
import ValuedGraph.Proofs.Model.Accepted

/-!
# Propagation along edges

Tags and values are computed for a node from those of the nodes that its edges lead to. What
such a computation gives for a node does not depend on when it runs, or on what else is known
by then: there is one outcome for each node, and a table of outcomes that is closed under refs
is all that is needed to go on.

* `Propagation.outcome`: **what is computed for a node** if all of the model is computed in
  order.
* `Propagation.Sound`: a table of outcomes that is closed under refs.
* `Propagation.Sound.step_eq`: a sound table that has the refs of a node gives its outcome.
* `Propagation.reading`: the outcome of a node, or else the first failure above it.
* `Model.lineage`: a node behind all nodes that it refers to, directly or not.
-/

namespace ValuedGraph

open Relation

namespace Model

variable {m : Model}

/-- **The nodes above a node,** each after those it refers to. -/
def upstream (m : Model) (id : String) : List String :=
  m.nodeOrder.filter fun k => (m.graph.ancestors id).contains k && k != rootId

/-- **A node behind all nodes above it.** -/
def lineage (m : Model) (id : String) : List String := m.upstream id ++ [id]

namespace Accepted

variable {id k r : String}

theorem mem_nodeOrder_of_mem_refs (h : m.Accepted) (hr : r ∈ m.refs id) : r ∈ m.nodeOrder :=
  (h.nodeOrder_ok.2.1 r).2 (Or.inr (h.mem_of_mem_refs hr))

/-- The edges of the graph are the refs of nodes and those that lead to the root. -/
theorem mem_edges_iff (h : m.Accepted) (hroot : r ≠ rootId) :
    (r, k) ∈ m.graph.edges ↔ r ∈ m.refs k := by
  rw [h.mem_graph_edges, mem_refs, and_iff_right hroot]

/-- The root has no edges. -/
theorem ne_root_of_mem_edges (h : m.Accepted) (he : (r, k) ∈ m.graph.edges) : k ≠ rootId := by
  obtain ⟨n, hn, -⟩ := h.mem_graph_edges.1 he
  exact (h.nodes k n hn).ne_root

theorem mem_upstream (h : m.Accepted) : k ∈ m.upstream id ↔
    TransGen (fun a b => (a, b) ∈ m.graph.edges) k id ∧ k ≠ rootId := by
  simp only [upstream, List.mem_filter, Bool.and_eq_true, List.contains_iff_mem, bne_iff_ne,
    Digraph.mem_ancestors]
  refine and_iff_right_of_imp ?_
  rintro ⟨hpath, hroot⟩
  -- an ancestor other than the root is the source of an edge, so it is a ref of some node
  obtain ⟨j, hj, -⟩ := TransGen.head'_iff.1 hpath
  exact h.mem_nodeOrder_of_mem_refs ((h.mem_edges_iff hroot).1 hj)

/-- A lineage has every node once, because no node is above itself. -/
theorem nodup_lineage (h : m.Accepted) : (m.lineage id).Nodup := by
  have hself : id ∉ m.upstream id := by
    intro hid
    have hpath := (h.mem_upstream.1 hid).1
    rw [h.graph] at hpath
    exact Digraph.not_transGen_self (Definition.nodeOrder_eq_ok.1 h.nodeOrder) hpath
  refine List.nodup_append.2 ⟨h.nodeOrder_ok.1.filter _, List.nodup_singleton id, ?_⟩
  rintro k hk j hj rfl
  exact hself (List.mem_singleton.1 hj ▸ hk)

/-- **A lineage is in order:** every node in it stands behind the nodes that it refers to. -/
theorem lineage_ordered (h : m.Accepted) {before after : List String}
    (hl : m.lineage id = before ++ k :: after) : ∀ r ∈ m.refs k, r ∈ before := by
  refine forall_split_snoc (p := fun before k => ∀ r ∈ m.refs k, r ∈ before) ?_ ?_ before k after hl
  · -- a node above: its refs are above, too, and in front of it in the order of all nodes
    intro before k after hup r hr
    have hroot := (mem_refs.1 hr).1
    have hk := (h.mem_upstream.1 (hup ▸ List.mem_append_right _ List.mem_cons_self)).1
    have hrup := h.mem_upstream.2 ⟨TransGen.head ((h.mem_edges_iff hroot).2 hr) hk, hroot⟩
    obtain ⟨front, rest, horder, rfl, hrest⟩ := List.filter_eq_append_iff.1 hup
    obtain ⟨skipped, back, rfl, hskip, -, -⟩ := List.filter_eq_cons_iff.1 hrest
    have hbefore := h.nodeOrder_ok.2.2 (front ++ skipped) k back (by rw [horder]; simp) r hr
    rcases List.mem_append.1 hbefore with hf | hs
    · exact List.mem_filter.2 ⟨hf, (List.mem_filter.1 hrup).2⟩
    · exact absurd (List.mem_filter.1 hrup).2 (hskip r hs)
  · -- the node itself, behind all nodes above it
    intro r hr
    have hroot := (mem_refs.1 hr).1
    exact h.mem_upstream.2 ⟨TransGen.single ((h.mem_edges_iff hroot).2 hr), hroot⟩

end Accepted

end Model

/-- **Something computed for a node** from a table of the same for the nodes it refers to. -/
structure Propagation (m : Model) (β : Type) where
  step : Table β → String → Except ReadFailure β
  /-- nothing else of the table is used -/
  congr : ∀ {t u : Table β} {id : String}, (∀ r ∈ m.refs id, t.get? r = u.get? r) →
    step t id = step u id

namespace Propagation

variable {m : Model} {β : Type} {P : Propagation m β} {t : Table β} {k r : String}

/-- Adds what is computed for one more node, if that does not fail. -/
def settle (P : Propagation m β) (t : Table β) (k : String) : Table β :=
  match P.step t k with
  | .ok b => t.insert k b
  | .error _ => t

/-- Everything that can be computed. -/
def settled (P : Propagation m β) : Table β := m.nodeOrder.foldl P.settle ∅

/-- **What is computed for a node,** once everything in front of it is computed. -/
def outcome (P : Propagation m β) (k : String) : Except ReadFailure β := P.step P.settled k

/-- The first failure along a list of nodes, if there is one. -/
def along (P : Propagation m β) : List String → Except ReadFailure Unit
  | [] => .ok ()
  | k :: l => (P.outcome k).bind fun _ => P.along l

/-- **What reading a node gives:** the first failure above the node, or else what is computed
for it. -/
def reading (P : Propagation m β) (id : String) : Except ReadFailure β :=
  (P.along (m.lineage id)).bind fun _ => P.outcome id

theorem get?_settle_of_ne (h : r ≠ k) : (P.settle t k).get? r = t.get? r := by
  unfold settle
  split
  · exact Table.get?_insert_of_ne _ _ h
  · rfl

theorem get?_foldl_settle {l : List String} (h : r ∉ l) :
    (l.foldl P.settle t).get? r = t.get? r := by
  induction l generalizing t with
  | nil => rfl
  | cons k l ih =>
    rw [List.mem_cons, not_or] at h
    obtain ⟨hk, hl⟩ := h
    rw [List.foldl_cons, ih hl, get?_settle_of_ne hk]

/-- **The settled table is the table of outcomes.** -/
theorem get?_settled (h : m.Accepted) (hk : k ∈ m.nodeOrder) :
    P.settled.get? k = (P.outcome k).toOption := by
  obtain ⟨hnd, -, hrefs⟩ := h.nodeOrder_ok
  obtain ⟨before, after, hl⟩ := List.append_of_mem hk
  have hnd' := hnd
  rw [hl] at hnd'
  obtain ⟨-, hback, hdisj⟩ := List.nodup_append.1 hnd'
  have hafter : k ∉ after := (List.nodup_cons.1 hback).1
  have hbefore : k ∉ before := fun hm => hdisj k hm k (by simp) rfl
  set front := before.foldl P.settle ∅ with hfront
  have hsettled : P.settled = after.foldl P.settle (P.settle front k) := by
    rw [settled, hl, List.foldl_append, List.foldl_cons]
  -- what is known in front of the node is all that is ever known of its refs
  have hagree : ∀ r ∈ m.refs k, front.get? r = P.settled.get? r := by
    intro r hr
    have hrb := hrefs before k after hl r hr
    have hra : r ∉ after := fun hm => hdisj r hrb r (by simp [hm]) rfl
    have hrk : r ≠ k := fun he => hdisj r hrb k (by simp) he
    rw [hsettled, get?_foldl_settle hra, get?_settle_of_ne hrk]
  have hstep : P.step front k = P.outcome k := P.congr hagree
  have hnone : front.get? k = none := by
    rw [hfront, get?_foldl_settle hbefore]
    rfl
  rw [hsettled, get?_foldl_settle hafter, settle, hstep]
  cases P.outcome k with
  | ok b => simp [Except.toOption]
  | error f => simpa [Except.toOption] using hnone

/-- **What is settled for a ref** is its outcome. -/
theorem get?_settled_ref (h : m.Accepted) {id : String} (hr : r ∈ m.refs id) {b : β} :
    P.settled.get? r = some b ↔ P.outcome r = .ok b := by
  rw [get?_settled h (h.mem_nodeOrder_of_mem_refs hr)]
  cases P.outcome r <;> simp [Except.toOption]

/-- **A table of outcomes** in which every node stands behind its refs. -/
structure Sound (P : Propagation m β) (t : Table β) : Prop where
  entries : ∀ k b, t.get? k = some b → P.outcome k = .ok b
  ordered : ∀ before k after, t.keys = before ++ k :: after → ∀ r ∈ m.refs k, r ∈ before

theorem sound_empty : P.Sound ∅ where
  entries := by intro k b h; cases h
  ordered := by
    intro before k after h
    have hnil : before ++ k :: after = [] := h.symm
    simp at hnil

/-- **A sound table is closed** under refs. -/
theorem Sound.closed (ht : P.Sound t) : ∀ k ∈ t, ∀ r ∈ m.refs k, r ∈ t := by
  intro k hk r hr
  obtain ⟨before, after, hkeys⟩ := List.append_of_mem (Table.mem_iff.1 hk)
  rw [Table.mem_iff, hkeys]
  exact List.mem_append_left _ (ht.ordered before k after hkeys r hr)

theorem Sound.outcome_ok (ht : P.Sound t) (hk : k ∈ t) : ∃ b, t.get? k = some b ∧ P.outcome k = .ok b := by
  obtain ⟨b, hb⟩ := Table.exists_get? hk
  exact ⟨b, hb, ht.entries k b hb⟩

/-- **A sound table with the refs of a node** gives the outcome of the node. -/
theorem Sound.step_eq (ht : P.Sound t) (h : m.Accepted) (hr : ∀ r ∈ m.refs k, r ∈ t) :
    P.step t k = P.outcome k := by
  refine P.congr fun r hm => ?_
  obtain ⟨b, hb, hout⟩ := ht.outcome_ok (hr r hm)
  rw [hb, (get?_settled_ref h hm).2 hout]

/-- The outcome of a node may be added to a sound table with its refs. -/
theorem Sound.insert (ht : P.Sound t) (hk : k ∉ t) (hr : ∀ r ∈ m.refs k, r ∈ t) {b : β}
    (hb : P.outcome k = .ok b) : P.Sound (t.insert k b) where
  entries := Table.forall_get?_insert ht.entries hb
  ordered := by
    rw [Table.keys_insert, if_neg hk]
    exact forall_split_snoc ht.ordered hr

/-- **What is known of a node is known of all nodes above it.** -/
theorem Sound.mem_of_mem_upstream (ht : P.Sound t) (h : m.Accepted) {id : String} (hid : id ∈ t)
    (hk : k ∈ m.upstream id) : k ∈ t := by
  obtain ⟨hpath, hroot⟩ := h.mem_upstream.1 hk
  clear hk
  -- along the path no node behind the first one is the root, which has no edges
  induction hpath using TransGen.head_induction_on with
  | single hedge => exact ht.closed id hid _ ((h.mem_edges_iff hroot).1 hedge)
  | head hedge _ ih =>
    exact ht.closed _ (ih (h.ne_root_of_mem_edges hedge)) _ ((h.mem_edges_iff hroot).1 hedge)

theorem along_cons_ok {l : List String} {b : β} (hk : P.outcome k = .ok b) :
    P.along (k :: l) = P.along l := by
  simp [along, hk, Except.bind]

theorem along_cons_error {l : List String} {f : ReadFailure} (hk : P.outcome k = .error f) :
    P.along (k :: l) = .error f := by
  simp [along, hk, Except.bind]

/-- There is no failure along nodes that all have outcomes. -/
theorem along_ok {l : List String} : P.along l = .ok () ↔ ∀ k ∈ l, ∃ b, P.outcome k = .ok b := by
  induction l with
  | nil => simp [along]
  | cons k l ih =>
    cases hk : P.outcome k with
    | ok b => simp [along_cons_ok hk, hk, ih]
    | error f => simp [along_cons_error hk, hk]

/-- **The first failure** is that of a node behind nodes that all have outcomes. -/
theorem along_error {l : List String} {f : ReadFailure} (h : P.along l = .error f) :
    ∃ before k after, l = before ++ k :: after ∧ P.outcome k = .error f ∧
      ∀ j ∈ before, ∃ b, P.outcome j = .ok b := by
  induction l with
  | nil => cases h
  | cons k l ih =>
    cases hk : P.outcome k with
    | error e =>
      obtain rfl := Except.error.inj ((along_cons_error hk).symm.trans h)
      exact ⟨[], k, l, rfl, hk, by simp⟩
    | ok b =>
      obtain ⟨before, j, after, rfl, hj, hbefore⟩ := ih ((along_cons_ok hk).symm.trans h)
      refine ⟨k :: before, j, after, rfl, hj, ?_⟩
      intro i hi
      rcases List.mem_cons.1 hi with rfl | hi
      · exact ⟨b, hk⟩
      · exact hbefore i hi

/-- There is no failure above a node of a sound table. -/
theorem Sound.along_lineage (ht : P.Sound t) (h : m.Accepted) {id : String} (hid : id ∈ t) :
    P.along (m.lineage id) = .ok () := by
  refine along_ok.2 fun k hk => ?_
  have hk : k ∈ t := by
    rcases List.mem_append.1 hk with hk | hk
    · exact ht.mem_of_mem_upstream h hid hk
    · rwa [List.mem_singleton.1 hk]
  obtain ⟨b, -, hb⟩ := ht.outcome_ok hk
  exact ⟨b, hb⟩

/-- **A node that can be read** has an outcome, and so have all nodes above it. -/
theorem reading_ok {id : String} {b : β} : P.reading id = .ok b ↔
    P.outcome id = .ok b ∧ ∀ k ∈ m.upstream id, ∃ c, P.outcome k = .ok c := by
  unfold reading
  cases hal : P.along (m.lineage id) with
  | ok u =>
    have hall := along_ok.1 hal
    simp only [Except.bind]
    refine (and_iff_left_of_imp fun _ k hk => ?_).symm
    exact hall k (List.mem_append_left _ hk)
  | error f =>
    obtain ⟨before, k, after, hl, hk, -⟩ := along_error hal
    have hmem : k ∈ m.upstream id ++ [id] := by
      rw [← Model.lineage, hl]
      simp
    simp only [Except.bind, reduceCtorEq, false_iff, not_and]
    intro hid hup
    rcases List.mem_append.1 hmem with hmem | hmem
    · obtain ⟨c, hc⟩ := hup k hmem
      exact absurd (hk.symm.trans hc) (by simp)
    · obtain rfl := List.mem_singleton.1 hmem
      exact absurd (hk.symm.trans hid) (by simp)

/-- **A node that cannot be read** has a failure in its lineage, and all nodes that the failing
one refers to have outcomes. -/
theorem reading_error (h : m.Accepted) {id : String} {f : ReadFailure}
    (hf : P.reading id = .error f) :
    ∃ k ∈ m.lineage id, P.outcome k = .error f ∧ ∀ r ∈ m.refs k, ∃ b, P.outcome r = .ok b := by
  have hal : P.along (m.lineage id) = .error f := by
    unfold reading at hf
    cases hal : P.along (m.lineage id) with
    | error e => rw [hal] at hf; simpa [Except.bind] using hf
    | ok u =>
      obtain ⟨b, hb⟩ := along_ok.1 hal id (by simp [Model.lineage])
      simp [hal, Except.bind, hb] at hf
  obtain ⟨before, k, after, hl, hk, hbefore⟩ := along_error hal
  refine ⟨k, hl ▸ by simp, hk, ?_⟩
  intro r hr
  exact hbefore r (h.lineage_ordered hl r hr)

end Propagation

end ValuedGraph
