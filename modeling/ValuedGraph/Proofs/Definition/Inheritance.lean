import ValuedGraph.Definition.Scenarios
import ValuedGraph.Proofs.Draft.Contents
import ValuedGraph.Proofs.Failing
import ValuedGraph.Proofs.Graph.Cycles
import ValuedGraph.Proofs.Levels
import ValuedGraph.Proofs.Succeeding

/-!
# The overrides that scenarios inherit

Scenarios are completed in an order in which parents come first, so the overrides of a parent are
final when a scenario extends it. Along the scenarios that one extends, the nearest that writes an
override therefore decides.

* `ScenarioDraft.Writes`, `Extends`, `Lineage`: what a scenario writes itself, what it extends, and
  all that it extends one after the other.
* `Overlay.below?_extend`: **of two overlays, the nearer one is asked first.**
* `below?_foldl_inherit`: a completed scenario has what the nearest of its lineage writes.
* `exists_resolveScenarios_iff`: scenarios are completed if all parents are known and none extends
  itself, and only then.
* `nearest_scenario_wins`: **overrides are those of the nearest scenario that writes them.**
-/

namespace ValuedGraph

open Relation

variable {drafts : Table ScenarioDraft} {own done : Table Overlay} {scenarios : Table Scenario}
  {name node property x y : String} {e : Expr} {chain order : List String}

section Written

/-- The place where a scenario writes the overrides of a node, and the place of its own for those of
the root. -/
def nodePlace (name node : String) : String := s!"scenarios.{name}.nodes.{node}"

def rootPlace (name : String) : String := s!"scenarios.{name}.root"

/-- **What a scenario writes itself.** The overrides of the root have a place of their own, where
they win over those under the root's id. -/
inductive ScenarioDraft.Writes (name : String) (s : ScenarioDraft) : String → String → Expr → Prop
  | root {property : String} {v : Value} {e : Expr} (hv : s.root.get? property = some v)
      (he : Resolved.ownExpression property s!"{rootPlace name}.{property}" v = .ok e) :
      Writes name s rootId property e
  | node {node property : String} {t : Table Value} {v : Value} {e : Expr}
      (hroot : node = rootId → property ∉ s.root) (ht : s.nodes.get? node = some t)
      (hv : t.get? property = some v)
      (he : Resolved.ownExpression property s!"{nodePlace name node}.{property}" v = .ok e) :
      Writes name s node property e

/-- **A scenario whose overrides are all expressions.** -/
structure ScenarioDraft.Readable (name : String) (s : ScenarioDraft) : Prop where
  nodes : ∀ node t, s.nodes.get? node = some t → ∀ property v, t.get? property = some v →
    ∃ e, Resolved.ownExpression property s!"{nodePlace name node}.{property}" v = .ok e
  root : ∀ property v, s.root.get? property = some v →
    ∃ e, Resolved.ownExpression property s!"{rootPlace name}.{property}" v = .ok e

/-- **Of two overlays, the nearer one is asked first.** -/
theorem Overlay.below?_extend (far near : Overlay) (node property : String) :
    (far.extend near).below? node property =
      (near.below? node property).or (far.below? node property) := by
  have key : ∀ l : List (String × Table Expr), (l.map Prod.fst).Nodup → ∀ o : Overlay,
      Table.below? (l.foldl (fun o e => o.insert e.1 ((o.getD e.1 ∅).overlay e.2)) o)
          node property =
        (((l.lookup node).getD ∅).get? property).or (o.below? node property) := by
    intro l
    induction l with
    | nil => intro _ o; rfl
    | cons e l ih =>
      obtain ⟨j, t⟩ := e
      intro hnd o
      simp only [List.map_cons, List.nodup_cons] at hnd
      rw [List.foldl_cons, ih hnd.2]
      by_cases hj : node = j
      · subst hj
        -- the rest of the entries is about other nodes
        have hnone : l.lookup node = none := by
          cases ho : l.lookup node with
          | none => rfl
          | some u =>
            have hmem := (Table.lookup_eq_some_iff hnd.2).1 ho
            exact absurd (List.mem_map_of_mem (f := Prod.fst) hmem) hnd.1
        have hempty : (∅ : Table Expr).get? property = none := rfl
        simp [hnone, hempty, Table.below?, Table.getD, Table.get?_overlay]
      · simp [List.lookup_cons, beq_false_of_ne hj, Table.below?, Table.getD, Table.get?_insert, hj]
  exact key near.entries near.nodup far

theorem Overlay.below?_empty_extend (near : Overlay) (node property : String) :
    ((∅ : Overlay).extend near).below? node property = near.below? node property := by
  rw [below?_extend]
  exact Option.or_none

variable {s : ScenarioDraft} {o : Overlay}

/-- The overrides of one node, as they are read. -/
theorem get?_overrides {path : String} {t : Table Value} {u : Table Expr}
    (h : Resolved.overrides path t = .ok u) : u.get? property = some e ↔
      ∃ v, t.get? property = some v ∧
        Resolved.ownExpression property (path ++ "." ++ property) v = .ok e := Table.get?_of_traverse h

/-- **The overrides that a scenario writes itself,** as they are read. -/
theorem ScenarioDraft.below?_ownOverlay (h : s.ownOverlay name = .ok o) :
    o.below? node property = some e ↔ s.Writes name node property e := by
  obtain ⟨nodes, hnodes, h⟩ := ok_of_bind h
  have hunder (node : String) : Table.below? nodes node property = some e ↔
      ∃ t v, s.nodes.get? node = some t ∧ t.get? property = some v ∧
        Resolved.ownExpression property s!"{nodePlace name node}.{property}" v = .ok e := by
    rw [Table.below?_eq_some_iff]
    constructor
    · rintro ⟨u, hu, he⟩
      obtain ⟨t, ht, hread⟩ := (Table.get?_of_traverse hnodes).1 hu
      obtain ⟨v, hv, he⟩ := (get?_overrides hread).1 he
      exact ⟨t, v, ht, hv, he⟩
    · rintro ⟨t, v, ht, hv, he⟩
      obtain ⟨u, hread, hu⟩ := Table.exists_of_traverse hnodes ht
      exact ⟨u, hu, (get?_overrides hread).2 ⟨v, hv, he⟩⟩
  split at h
  · -- without a place of its own, the root has the overrides under its id
    rename_i hempty
    obtain rfl : nodes = o := Except.ok.inj h
    have hroot : ∀ k, k ∉ s.root := by
      intro k hk
      rw [Table.mem_iff, Table.keys, List.isEmpty_iff.1 hempty] at hk
      cases hk
    rw [hunder]
    constructor
    · rintro ⟨t, v, ht, hv, he⟩
      exact .node (fun _ => hroot property) ht hv he
    · rintro (⟨hv, -⟩ | ⟨-, ht, hv, he⟩)
      · exact absurd (Table.mem_of_get? hv) (hroot property)
      · exact ⟨_, _, ht, hv, he⟩
  · obtain ⟨root, hread, h⟩ := ok_of_bind h
    obtain rfl := Except.ok.inj h
    have hother (hne : node ≠ rootId) : Table.below?
        (nodes.insert rootId ((nodes.getD rootId ∅).overlay root)) node property =
          Table.below? nodes node property := by
      unfold Table.below? Table.getD
      rw [Table.get?_insert_of_ne _ _ hne]
    have hself : Table.below?
        (nodes.insert rootId ((nodes.getD rootId ∅).overlay root)) rootId property =
          (root.get? property).or (Table.below? nodes rootId property) := by
      unfold Table.below? Table.getD
      rw [Table.get?_insert_self, Option.getD_some, Table.get?_overlay]
    have hmem : property ∈ s.root ↔ property ∈ root := (Table.mem_of_traverse hread).symm
    constructor
    · intro ho
      by_cases hne : node = rootId
      · subst hne
        rw [hself, Option.or_eq_some_iff] at ho
        rcases ho with ho | ⟨hnone, ho⟩
        · obtain ⟨v, hv, he⟩ := (get?_overrides hread).1 ho
          exact .root hv he
        · obtain ⟨t, v, ht, hv, he⟩ := (hunder rootId).1 ho
          exact .node (fun _ => by rwa [hmem, ← Table.get?_eq_none_iff]) ht hv he
      · rw [hother hne] at ho
        obtain ⟨t, v, ht, hv, he⟩ := (hunder node).1 ho
        exact .node (fun h => absurd h hne) ht hv he
    · rintro (⟨hv, he⟩ | ⟨hroot, ht, hv, he⟩)
      · rw [hself, (get?_overrides hread).2 ⟨_, hv, he⟩, Option.some_or]
      · have ho := (hunder node).2 ⟨_, _, ht, hv, he⟩
        by_cases hne : node = rootId
        · subst hne
          have hnone : root.get? property = none := by
            rw [Table.get?_eq_none_iff, ← hmem]
            exact hroot rfl
          rw [hself, hnone, Option.none_or, ho]
        · rw [hother hne, ho]

/-- Overrides that are all expressions can be read. -/
theorem ScenarioDraft.Readable.exists_ownOverlay (h : s.Readable name) :
    ∃ o, s.ownOverlay name = .ok o := by
  obtain ⟨nodes, hnodes⟩ : ∃ nodes : Overlay, s.nodes.traverse (fun node t =>
      Resolved.overrides (nodePlace name node) t) = .ok nodes :=
    Table.exists_traverse fun node t ht => Table.exists_traverse (h.nodes node t ht)
  obtain ⟨root, hroot⟩ : ∃ root, Resolved.overrides (rootPlace name) s.root = .ok root :=
    Table.exists_traverse h.root
  by_cases hempty : s.root.isEmpty
  · refine ⟨nodes, (bind_of_ok hnodes _).trans ?_⟩
    rw [if_pos hempty]
    rfl
  · refine ⟨nodes.insert rootId ((nodes.getD rootId ∅).overlay root),
      (bind_of_ok hnodes _).trans ?_⟩
    rw [if_neg hempty]
    exact bind_of_ok hroot _

end Written

section Parents

/-- **A scenario extends another one.** -/
def Extends (drafts : Table ScenarioDraft) (x y : String) : Prop :=
  ∃ s, drafts.get? x = some s ∧ s.parent = some y

/-- The graph of scenarios leads from parents to the scenarios that extend them. -/
theorem leads_scenarioGraph :
    (scenarioGraph drafts).Leads x y ↔ x ∈ drafts ∧ Extends drafts y x := by
  unfold Adjacency.Leads Adjacency.targets Table.getD scenarioGraph Extends
  rw [Table.get?_map]
  cases hx : drafts.get? x with
  | none =>
    have hmem := Table.get?_eq_none_iff.1 hx
    simp [hmem]
  | some s =>
    have hmem := Table.mem_of_get? hx
    simp [hmem, Table.get?_eq_some_iff]

/-- What stands in the graph of scenarios. -/
theorem mem_nodes_scenarioGraph : x ∈ (scenarioGraph drafts).nodes ↔ x ∈ drafts := by
  rw [Adjacency.mem_nodes, scenarioGraph, Table.keys_map, Table.mem_iff]
  refine or_iff_left_of_imp ?_
  rintro ⟨y, hy⟩
  obtain ⟨-, s, hs, -⟩ := leads_scenarioGraph.1 hy
  exact Table.mem_of_get? hs

/-- **Whoever extends a known scenario** is led to from it. -/
theorem transGen_leads (hknown : ∀ x y, Extends drafts x y → y ∈ drafts) :
    TransGen (scenarioGraph drafts).Leads x y ↔ TransGen (Extends drafts) y x := by
  have hswap : (scenarioGraph drafts).Leads = Function.swap (Extends drafts) := by
    funext x y
    exact propext (leads_scenarioGraph.trans (and_iff_right_of_imp (hknown y x)))
  rw [hswap, transGen_swap]

/-- Parents that are all known. -/
theorem checkParents_ok {l : List (String × ScenarioDraft)} :
    checkParents drafts l = .ok () ↔ ∀ e ∈ l, ∀ y, e.2.parent = some y → y ∈ drafts := by
  induction l with
  | nil => simp [checkParents]
  | cons e l ih =>
    unfold checkParents
    cases hp : e.2.parent with
    | none => simp [hp, ih]
    | some parent =>
      by_cases hmem : parent ∈ drafts
      · simp [hp, hmem, ih]
      · simp [hp, hmem, Resolved.reject]

end Parents

section Completion

theorem getD_inherit (drafts : Table ScenarioDraft) (own done : Table Overlay) (name : String) :
    (inherit drafts own done name).getD name ∅ =
      (((drafts.get? name).bind ScenarioDraft.parent).elim ∅ fun parent =>
        done.getD parent ∅ : Overlay).extend (own.getD name ∅) := by
  unfold inherit Table.getD
  rw [Table.get?_insert_self, Option.getD_some]
  cases (drafts.get? name).bind ScenarioDraft.parent <;> rfl

/-- **Scenarios that are done** are not changed by others. -/
theorem getD_foldl_inherit (hx : x ∉ order) : ∀ done : Table Overlay,
    (order.foldl (inherit drafts own) done).getD x ∅ = done.getD x ∅ := by
  induction order with
  | nil => intro done; rfl
  | cons name order ih =>
    intro done
    rw [List.mem_cons, not_or] at hx
    rw [List.foldl_cons, ih hx.2, inherit, Table.getD, Table.get?_insert_of_ne _ _ hx.1, Table.getD]

/-- **The overrides of a scenario** are its own over those of its parent, if the parent comes
first. -/
theorem getD_overlays (hnd : order.Nodup) {before after : List String}
    (hsplit : order = before ++ x :: after) (hparent : ∀ y, Extends drafts x y → y ∈ before) :
    let overlays := order.foldl (inherit drafts own) ∅
    overlays.getD x ∅ = (((drafts.get? x).bind ScenarioDraft.parent).elim ∅ fun parent =>
      overlays.getD parent ∅ : Overlay).extend (own.getD x ∅) := by
  dsimp only
  rw [hsplit] at hnd
  obtain ⟨-, hrest, hdisjoint⟩ := List.nodup_append.1 hnd
  have hxafter : x ∉ after := (List.nodup_cons.1 hrest).1
  have hdone : ∀ y ∈ before, (order.foldl (inherit drafts own) ∅).getD y ∅ =
      (before.foldl (inherit drafts own) ∅).getD y ∅ := by
    intro y hy
    rw [hsplit, List.foldl_append]
    exact getD_foldl_inherit (fun hm => hdisjoint y hy y hm rfl) _
  have hx : (order.foldl (inherit drafts own) ∅).getD x ∅ =
      (inherit drafts own (before.foldl (inherit drafts own) ∅) x).getD x ∅ := by
    rw [hsplit, List.foldl_append, List.foldl_cons]
    exact getD_foldl_inherit hxafter _
  rw [hx, getD_inherit]
  cases hp : (drafts.get? x).bind ScenarioDraft.parent with
  | none => rfl
  | some parent =>
    obtain ⟨s, hs, hparent'⟩ := Option.bind_eq_some_iff.1 hp
    rw [Option.elim_some, Option.elim_some, hdone parent (hparent parent ⟨s, hs, hparent'⟩)]

end Completion

section Lineages

/-- **All that a scenario extends,** one after the other, from the scenario itself on. -/
inductive Lineage (drafts : Table ScenarioDraft) : String → List String → Prop
  | last {name : String} {s : ScenarioDraft} (hs : drafts.get? name = some s)
      (hparent : s.parent = none) : Lineage drafts name [name]
  | extending {name parent : String} {chain : List String} (hx : Extends drafts name parent)
      (h : Lineage drafts parent chain) : Lineage drafts name (name :: chain)

/-- What the scenario with a name writes. -/
def Writes (drafts : Table ScenarioDraft) (name node property : String) (e : Expr) : Prop :=
  ∃ s, drafts.get? name = some s ∧ s.Writes name node property e

/-- **What the first of some scenarios writes** that writes an override of a value. -/
def NearestWrites (drafts : Table ScenarioDraft) (chain : List String) (node property : String)
    (e : Expr) : Prop :=
  ∃ before name after, chain = before ++ name :: after ∧ Writes drafts name node property e ∧
    ∀ nearer ∈ before, ∀ e', ¬ Writes drafts nearer node property e'

theorem not_nearestWrites_nil : ¬ NearestWrites drafts [] node property e := by
  rintro ⟨before, name, after, h, -⟩
  simp at h

theorem nearestWrites_cons : NearestWrites drafts (name :: chain) node property e ↔
    Writes drafts name node property e ∨
      (∀ e', ¬ Writes drafts name node property e') ∧
        NearestWrites drafts chain node property e := by
  constructor
  · rintro ⟨before, x, after, hsplit, hx, hbefore⟩
    cases before with
    | nil =>
      obtain ⟨rfl, -⟩ := List.cons.inj hsplit
      exact Or.inl hx
    | cons y before =>
      obtain ⟨rfl, rfl⟩ := List.cons.inj hsplit
      exact Or.inr ⟨hbefore name (by simp), before, x, after, rfl, hx,
        fun z hz => hbefore z (by simp [hz])⟩
  · rintro (h | ⟨hnot, before, x, after, rfl, hx, hbefore⟩)
    · exact ⟨[], name, chain, rfl, h, by simp⟩
    · refine ⟨name :: before, x, after, rfl, hx, fun z hz => ?_⟩
      rcases List.mem_cons.1 hz with rfl | hz
      · exact hnot
      · exact hbefore z hz

/-- The overrides of all scenarios, as they are read. -/
theorem below?_own (hown : drafts.traverse ScenarioDraft.ownOverlay = .ok own) :
    Table.below? (own.getD name ∅) node property = some e ↔
      Writes drafts name node property e := by
  unfold Writes
  cases hget : own.get? name with
  | some o =>
    obtain ⟨s, hs, ho⟩ := (Table.get?_of_traverse hown).1 hget
    rw [Table.getD, hget, Option.getD_some, ScenarioDraft.below?_ownOverlay ho]
    simp [hs]
  | none =>
    have hnone : drafts.get? name = none := by
      rw [Table.get?_eq_none_iff] at hget ⊢
      rwa [← Table.mem_of_traverse hown]
    rw [Table.getD, hget, hnone]
    constructor
    · intro h
      cases h
    · rintro ⟨s, hs, -⟩
      cases hs

/-- **In an order with parents first,** every scenario has a lineage. -/
theorem exists_lineage (hmem : ∀ x, x ∈ order ↔ x ∈ drafts)
    (hparents : ∀ before x after, order = before ++ x :: after →
      ∀ y, Extends drafts x y → y ∈ before) :
    ∀ x ∈ order, ∃ chain, Lineage drafts x chain := by
  refine forall_mem_of_prefix fun before x after hsplit ih => ?_
  obtain ⟨s, hs⟩ := Table.exists_get? ((hmem x).1 (hsplit ▸ by simp))
  cases hp : s.parent with
  | none => exact ⟨[x], .last hs hp⟩
  | some parent =>
    have hx : Extends drafts x parent := ⟨s, hs, hp⟩
    obtain ⟨chain, hchain⟩ := ih parent (hparents before x after hsplit parent hx)
    exact ⟨x :: chain, .extending hx hchain⟩

/-- **A completed scenario** has what the nearest of its lineage writes. -/
theorem below?_foldl_inherit (hown : drafts.traverse ScenarioDraft.ownOverlay = .ok own)
    (hnd : order.Nodup) (hmem : ∀ x, x ∈ order ↔ x ∈ drafts)
    (hparents : ∀ before x after, order = before ++ x :: after →
      ∀ y, Extends drafts x y → y ∈ before) (h : Lineage drafts name chain) :
    Table.below? ((order.foldl (inherit drafts own) ∅).getD name ∅) node property = some e ↔
      NearestWrites drafts chain node property e := by
  have hstep : ∀ x ∈ drafts, (order.foldl (inherit drafts own) ∅).getD x ∅ =
      (((drafts.get? x).bind ScenarioDraft.parent).elim ∅ fun parent =>
        (order.foldl (inherit drafts own) ∅).getD parent ∅ : Overlay).extend (own.getD x ∅) := by
    intro x hx
    obtain ⟨before, after, hsplit⟩ := List.append_of_mem ((hmem x).2 hx)
    exact getD_overlays hnd hsplit (hparents before x after hsplit)
  induction h with
  | @last name s hs hparent =>
    rw [hstep name (Table.mem_of_get? hs), hs, Option.bind_some, hparent, Option.elim_none,
      Overlay.below?_empty_extend, below?_own hown, nearestWrites_cons]
    simp [not_nearestWrites_nil]
  | @extending name parent chain hx _ ih =>
    obtain ⟨s, hs, hparent⟩ := hx
    rw [hstep name (Table.mem_of_get? hs), hs, Option.bind_some, hparent, Option.elim_some,
      Overlay.below?_extend, Option.or_eq_some_iff, nearestWrites_cons, below?_own hown]
    refine or_congr Iff.rfl (and_congr ?_ ih)
    simp only [Option.eq_none_iff_forall_ne_some, ne_eq, below?_own hown]

end Lineages

section Outcomes

/-- **Why scenarios are not completed:** a parent is unknown, or the scenarios that are reported lead
to one that extends itself. -/
def ParentFault (drafts : Table ScenarioDraft) : DefinitionError → Prop
  | .unknownParent x y => Extends drafts x y ∧ y ∉ drafts
  | .parentCycle names => names ≠ [] ∧ ∀ x, x ∈ names ↔
      ∃ y, ReflTransGen (Extends drafts) x y ∧ TransGen (Extends drafts) y y
  | _ => False

/-- Parents that are checked: all of them are known, or one that is not is reported. -/
theorem fails_checkParents {l : List (String × ScenarioDraft)} (hl : ∀ d ∈ l, d ∈ drafts.entries) :
    OnlyFails (fun failure => ∃ error, failure = .rejected error ∧ ParentFault drafts error)
      (checkParents drafts l) := by
  induction l with
  | nil => exact OnlyFails.ok ()
  | cons d l ih =>
    have hrest := ih fun d' hd => hl d' (by simp [hd])
    unfold checkParents
    split
    · rename_i parent hparent
      refine OnlyFails.ite (fun _ => hrest) fun hunknown => OnlyFails.error ⟨_, rfl, ?_, hunknown⟩
      exact ⟨d.2, Table.get?_eq_some_iff.2 (hl d (by simp)), hparent⟩
    · exact hrest

/-- **The scenarios that are reported** are those that lead to one that extends itself. -/
theorem parentFault_of_order (hknown : ∀ x y, Extends drafts x y → y ∈ drafts) {c : Cyclic}
    (h : (scenarioGraph drafts).order = .error c) :
    ParentFault drafts (.parentCycle (sortedTexts c.remaining)) := by
  obtain ⟨-, hne, hmem⟩ := Adjacency.order_error h
  have hperm : (sortedTexts c.remaining).Perm c.remaining := List.mergeSort_perm _ _
  have hpath : ∀ x y, ReflTransGen (scenarioGraph drafts).Leads y x ↔
      ReflTransGen (Extends drafts) x y := by
    intro x y
    rw [reflTransGen_iff_eq_or_transGen, reflTransGen_iff_eq_or_transGen, transGen_leads hknown,
      eq_comm]
  refine ⟨fun hnil => hne ?_, fun x => ?_⟩
  · rw [hnil] at hperm
    exact hperm.nil_eq.symm
  · rw [hperm.mem_iff, hmem, Adjacency.Caught]
    simp only [hpath, transGen_leads hknown, and_comm]

/-- **Parents without fault:** all are known, and no scenario extends itself on any way. -/
structure ParentsOK (drafts : Table ScenarioDraft) : Prop where
  known : ∀ x y, Extends drafts x y → y ∈ drafts
  acyclic : ∀ x, ¬ TransGen (Extends drafts) x x

theorem ParentFault.not_parentsOK {error : DefinitionError} (h : ParentFault drafts error) :
    ¬ ParentsOK drafts := by
  intro hok
  cases error <;> try exact h.elim
  case unknownParent x y => exact h.2 (hok.known x y h.1)
  case parentCycle names =>
    obtain ⟨hne, hmem⟩ := h
    obtain ⟨x, hx⟩ := List.exists_mem_of_ne_nil names hne
    obtain ⟨y, -, hy⟩ := (hmem x).1 hx
    exact hok.acyclic y hy

/-- All scenarios, with the overrides that are found along an order. -/
def completed (drafts : Table ScenarioDraft) (own : Table Overlay) (order : List String) :
    Table Scenario :=
  drafts.map fun name s =>
    { name
      description := s.description
      parent := s.parent
      overlay := (order.foldl (inherit drafts own) ∅).getD name ∅ }

/-- **Scenarios are completed along an order with parents first,** or a parent is at fault. -/
theorem resolveScenarios_cases (hown : drafts.traverse ScenarioDraft.ownOverlay = .ok own) :
    (∃ order, ParentsOK drafts ∧ (scenarioGraph drafts).order = .ok order ∧
      resolveScenarios drafts = .ok (completed drafts own order)) ∨
    ∃ error, ParentFault drafts error ∧ resolveScenarios drafts = .error (.rejected error) := by
  unfold resolveScenarios
  rw [bind_of_ok hown]
  cases hparents : checkParents drafts drafts.entries with
  | error failure =>
    obtain ⟨error, rfl, hfault⟩ := fails_checkParents (fun _ hd => hd) _ hparents
    exact Or.inr ⟨error, hfault, rfl⟩
  | ok u =>
    have hknown : ∀ x y, Extends drafts x y → y ∈ drafts := by
      rintro x y ⟨s, hs, hparent⟩
      exact checkParents_ok.1 hparents (x, s) (Table.get?_eq_some_iff.1 hs) y hparent
    rw [bind_of_ok rfl]
    cases horder : (scenarioGraph drafts).order with
    | error cyclic => exact Or.inr ⟨_, parentFault_of_order hknown horder, rfl⟩
    | ok order =>
      have hacyclic := Adjacency.exists_order_iff.1 ⟨order, horder⟩
      exact Or.inl ⟨order, ⟨hknown, fun x hx => hacyclic x ((transGen_leads hknown).2 hx)⟩, rfl, rfl⟩

/-- **Overrides are those of the nearest scenario that writes them.** Scenarios whose overrides are
all expressions are completed if every parent is known and no scenario extends itself on any way, and
only then; otherwise the error names an unknown parent, or the scenarios that lead to such a cycle.
Completed scenarios come in the order of their drafts. Each has a lineage, and overrides exactly what
some scenario of it writes, in the way of the nearest that does. -/
theorem nearest_scenario_wins
    (h : ∀ name s, drafts.get? name = some s → s.Readable name) :
    ((∃ scenarios, resolveScenarios drafts = .ok scenarios) ↔
      (∀ x y, Extends drafts x y → y ∈ drafts) ∧ ∀ x, ¬ TransGen (Extends drafts) x x) ∧
    (∀ failure, resolveScenarios drafts = .error failure →
      ∃ error, failure = .rejected error ∧ ParentFault drafts error) ∧
    ∀ scenarios, resolveScenarios drafts = .ok scenarios → scenarios.keys = drafts.keys ∧
      ∀ name scenario, scenarios.get? name = some scenario → ∃ chain, Lineage drafts name chain ∧
        ∀ node property e, (scenario.overrides node).get? property = some e ↔
          NearestWrites drafts chain node property e := by
  obtain ⟨own, hown⟩ := Table.exists_traverse fun name s hs => (h name s hs).exists_ownOverlay
  rcases resolveScenarios_cases hown with ⟨order, hok, horder, hres⟩ | ⟨error, hfault, hres⟩
  · obtain ⟨hnd, hnodes, hord⟩ := Adjacency.order_ok horder
    have hmem : ∀ x, x ∈ order ↔ x ∈ drafts := fun x => (hnodes x).trans mem_nodes_scenarioGraph
    have hparents : ∀ before x after, order = before ++ x :: after →
        ∀ y, Extends drafts x y → y ∈ before := fun before x after hsplit y hy =>
      hord before x after hsplit y (leads_scenarioGraph.2 ⟨hok.known x y hy, hy⟩)
    refine ⟨⟨fun _ => ⟨hok.known, hok.acyclic⟩, fun _ => ⟨_, hres⟩⟩, fun failure hfail => ?_,
      fun scenarios hscenarios => ?_⟩
    · rw [hres] at hfail
      cases hfail
    · rw [hres] at hscenarios
      obtain rfl := Except.ok.inj hscenarios
      refine ⟨Table.keys_map _ _, fun name scenario hget => ?_⟩
      rw [completed, Table.get?_map] at hget
      obtain ⟨s, hs, rfl⟩ := Option.map_eq_some_iff.1 hget
      obtain ⟨chain, hchain⟩ := exists_lineage hmem hparents name
        ((hmem name).2 (Table.mem_of_get? hs))
      exact ⟨chain, hchain, fun node property e =>
        below?_foldl_inherit hown hnd hmem hparents hchain⟩
  · have hnot := hfault.not_parentsOK
    refine ⟨⟨?_, fun hok => absurd ⟨hok.1, hok.2⟩ hnot⟩, fun failure hfail => ?_,
      fun scenarios hscenarios => ?_⟩
    · rintro ⟨scenarios, hscenarios⟩
      rw [hres] at hscenarios
      cases hscenarios
    · rw [hres] at hfail
      exact ⟨error, (Except.error.inj hfail).symm, hfault⟩
    · rw [hres] at hscenarios
      cases hscenarios

/-- A summer with rain on the root, whose own place wins, and a drought in it. -/
def seasons : Table ScenarioDraft := .ofList [
  ("drought",
    { description := "", parent := some "summer", root := ∅
      nodes := .ofList [("spring", .ofList [("flow", .bool false)])] }),
  ("summer",
    { description := "", parent := none, root := .ofList [("rain", .bool false)]
      nodes := .ofList [
        (rootId, .ofList [("rain", .bool true)]), ("spring", .ofList [("flow", .bool true)])] })]

/-- The drought has what the nearest of its lineage writes. -/
theorem nearest_scenario_wins_seasons :
    (∀ name s, seasons.get? name = some s → s.Readable name) ∧
    ∃ scenarios scenario, resolveScenarios seasons = .ok scenarios ∧
      scenarios.get? "drought" = some scenario ∧ ∃ chain, Lineage seasons "drought" chain ∧
        ∀ node property e, (scenario.overrides node).get? property = some e ↔
          NearestWrites seasons chain node property e := by
  -- all overrides are truth values, which are expressions
  have hread : ∀ v : Value, v.kind == "bool" → ∀ property path,
      ∃ e, Resolved.ownExpression property path v = .ok e := by
    intro v hv property path
    cases v with
    | bool b => exact ⟨_, rfl⟩
    | moment m => cases m <;> simp [Value.kind] at hv
    | _ => simp [Value.kind] at hv
  have hall : seasons.values.all fun s =>
      (s.nodes.values.all fun t => t.values.all fun v => v.kind == "bool") &&
        s.root.values.all fun v => v.kind == "bool" := by rfl
  have hreadable : ∀ name s, seasons.get? name = some s → s.Readable name := by
    intro name s hs
    obtain ⟨hnodes, hroot⟩ := Bool.and_eq_true_iff.1
      (List.all_eq_true.1 hall s (Table.mem_values.2 ⟨name, hs⟩))
    constructor
    · intro node t ht property v hv
      have htable := List.all_eq_true.1 hnodes t (Table.mem_values.2 ⟨node, ht⟩)
      exact hread v (List.all_eq_true.1 htable v (Table.mem_values.2 ⟨property, hv⟩)) _ _
    · intro property v hv
      exact hread v (List.all_eq_true.1 hroot v (Table.mem_values.2 ⟨property, hv⟩)) _ _
  obtain ⟨-, -, hwins⟩ := nearest_scenario_wins hreadable
  have hres : resolveScenarios seasons = .ok _ := rfl
  exact ⟨hreadable, _, _, hres, rfl, (hwins _ hres).2 "drought" _ rfl⟩

end Outcomes

end ValuedGraph
