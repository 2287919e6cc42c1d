import Mathlib.Data.List.Induction
import ValuedGraph.Model.Report
import ValuedGraph.Proofs.Model.Memo

/-!
# Runs of a model

A run reads a model, changes its scenario and drops what is memoized, in any order. Reads may
fail, and so may changes of the scenario. The memo keeps its invariant through all of it, so a
read never shows what was done before, the scenario apart.

* `Operation`, `Model.run`: **runs.**
* `memoOK_enter`: what is kept when the scenario changes is right under the new one.
* `memoOK_run`: the invariant, at the end of every run.
* `read_run_eq_read_fresh`: **a read at the end of a run gives what it gives on a fresh
  instance.**
-/

namespace ValuedGraph

/-- **What can be read** from a model. -/
inductive Read where
  | values (id : String)
  | rootValues
  | edges (id : String)
  | allEdges
  | tags (id : String)
  | drawing (id : String)
  | drawNode (id : String)
  | summary

/-- What a read answers. -/
def Read.Answer : Read → Type
  | values _ | rootValues => Table Float
  | edges _ | allEdges => List ExpandedEdge
  | tags _ => TagMembership
  | drawing _ => List DrawnEdge
  | drawNode _ => DrawnNode
  | summary => List (String × Float)

/-- **One operation** on an instance. -/
inductive Operation where
  | enter (scenario : String)
  | invalidate
  | read (r : Read)

namespace Model

/-- A read of something of a node, which has to be known. -/
def readNode {α : Type} (m : Model) (id : String) (x : Session α) : Session α := do
  let _ ← m.find id
  x

/-- **A read.** -/
def read (m : Model) : (r : Read) → Session r.Answer
  | .values id => m.readNode id (m.values id)
  | .rootValues => m.rootValues
  | .edges id => m.readNode id (m.edges id)
  | .allEdges => m.allEdges
  | .tags id => m.allTags id
  | .drawing id => m.readNode id (m.drawing id)
  | .drawNode id => m.draw id
  | .summary => m.summary

/-- The memo after an operation, whether or not it fails. -/
def after (m : Model) (μ : Memo) : Operation → Memo
  | .enter name => (m.setScenario name μ).memo
  | .invalidate => μ.forget
  | .read r => (m.read r μ).memo

/-- **The memo after a run.** -/
def run (m : Model) (ops : List Operation) (μ : Memo) : Memo := ops.foldl m.after μ

/-- Whether a scenario may be entered. -/
def knows (m : Model) (name : String) : Bool :=
  name == defaultScenario || decide (name ∈ m.definition.scenarios)

/-- **The active scenario after a run:** the last known one that was entered. -/
def active (m : Model) (ops : List Operation) : String :=
  ops.foldl (fun s op =>
    match op with
    | .enter name => if m.knows name then name else s
    | _ => s) defaultScenario

/-- **A fresh instance** in a scenario. -/
def fresh (m : Model) (s : String) : Memo := (m.setScenario s {}).memo

end Model

variable {α β : Type} {m : Model} {s id : String} {μ : Memo}

/-- **Nothing is memoized at the start.** -/
theorem memoOK_start (m : Model) : MemoOK m defaultScenario {} where
  scenario := rfl
  edges := by intro id edges h; cases h
  tags := Propagation.sound_empty
  values := Propagation.sound_empty
  drawn := by intro id drawn h; cases h
  root := by intro values h; cases h
  computed := rfl

theorem memoOK_forget (hμ : MemoOK m s μ) : MemoOK m s μ.forget where
  scenario := hμ.scenario
  edges := by intro id edges h; cases h
  tags := Propagation.sound_empty
  values := Propagation.sound_empty
  drawn := by intro id drawn h; cases h
  root := by intro values h; cases h
  computed := rfl

/-- Scenarios that do not override values of the root agree on them. -/
theorem rootOf_eq_of_touchesRoot {σ τ : Scenario} (hσ : σ.touchesRoot = false)
    (hτ : τ.touchesRoot = false) : m.rootOf σ = m.rootOf τ := by
  have hblank : ∀ {σ : Scenario}, σ.touchesRoot = false → σ.overrides rootId = ∅ := by
    intro σ h
    have hget : σ.overlay.get? rootId = none :=
      Table.get?_eq_none_iff.2 (by simpa [Scenario.touchesRoot] using h)
    simp [Scenario.overrides, Table.getD, hget]
  simp only [Model.rootOf, Model.rootTable, hblank hσ, hblank hτ]

/-- **What is kept when the scenario changes** is right under the new one: edges and tags do not
depend on it, and the values of the root only do if one of the two overrides them. -/
theorem memoOK_enter (hμ : MemoOK m s μ) (name : String) :
    MemoOK m name (μ.enter name (m.scenario s) (m.scenario name)) where
  scenario := rfl
  edges := hμ.edges
  tags := hμ.tags
  values := Propagation.sound_empty
  drawn := by intro id drawn h; cases h
  root := by
    intro values h
    simp only [Memo.enter] at h
    split at h
    · cases h
    · rename_i htouch
      rw [Bool.or_eq_true, not_or, Bool.not_eq_true, Bool.not_eq_true] at htouch
      rw [← rootOf_eq_of_touchesRoot htouch.1 htouch.2]
      exact hμ.root values h
  computed := rfl

/-- **Changing the scenario** leaves the memo alone if the new one is not known, or is the active
one. -/
theorem setScenario_memo (m : Model) (name : String) (μ : Memo) : (m.setScenario name μ).memo =
    if m.knows name = true ∧ name ≠ μ.scenario then
      μ.enter name (m.scenario μ.scenario) (m.scenario name)
    else μ := by
  have hguard : (name != defaultScenario && decide (name ∉ m.definition.scenarios)) =
      !m.knows name := by
    simp [Model.knows, bne, Bool.not_or]
  unfold Model.setScenario
  rw [hguard]
  cases hknown : m.knows name with
  | false => simp [Bind.bind, Session.bind, Session.fail]
  | true =>
    change ((if name != μ.scenario then Session.update fun memo =>
      memo.enter name (m.scenario μ.scenario) (m.scenario name) else pure ()) μ).memo = _
    by_cases hname : name = μ.scenario
    · simp only [hname, bne_self_eq_false, ne_eq, not_true, and_false, if_false]
      rfl
    · rw [if_pos (by simpa using hname), if_pos ⟨rfl, hname⟩]
      rfl

/-- **A change of the scenario keeps the invariant,** for the scenario that is active then. -/
theorem memoOK_setScenario (hμ : MemoOK m s μ) (name : String) :
    MemoOK m (if m.knows name then name else s) (m.setScenario name μ).memo := by
  rw [setScenario_memo, hμ.scenario]
  by_cases hknown : m.knows name = true
  · rw [if_pos hknown]
    by_cases hname : name = s
    · rw [if_neg (fun h => h.2 hname), hname]
      exact hμ
    · rw [if_pos ⟨hknown, hname⟩]
      exact memoOK_enter hμ name
  · rw [if_neg hknown, if_neg (fun h => hknown h.1)]
    exact hμ

/-- **A session whose result the memo does not show in.** -/
def Steady (m : Model) (s : String) (x : Session α) : Prop :=
  ∃ r, ∀ μ, MemoOK m s μ → Yields m s x μ r

section Steady

theorem steady_pure (a : α) : Steady m s (pure a : Session α) := ⟨_, fun _ hμ => yields_pure hμ a⟩

theorem steady_derive (x : Derived α) : Steady m s (Session.derive x) :=
  ⟨_, fun _ hμ => yields_derive hμ x⟩

theorem steady_bind {x : Session α} {f : α → Session β} (hx : Steady m s x)
    (hf : ∀ a, Steady m s (f a)) : Steady m s (x >>= f) := by
  -- the first result is the same on every memo, so the same session goes on from it
  obtain ⟨r, hr⟩ := hx
  cases r with
  | error e =>
    refine ⟨.error e, fun μ hμ => (hr μ hμ).bind (fun a ha => by cases ha) fun e' he' => ?_⟩
    rw [Except.error.inj he']
  | ok a =>
    obtain ⟨r', hr'⟩ := hf a
    refine ⟨r', fun μ hμ => (hr μ hμ).bind ?_ fun e he => by cases he⟩
    intro b hb ν _ hν _
    obtain rfl := Except.ok.inj hb
    exact hr' ν hν

theorem steady_mapM {f : α → Session β} {l : List α} (hf : ∀ a ∈ l, Steady m s (f a)) :
    Steady m s (l.mapM f) := by
  induction l with
  | nil => exact steady_pure []
  | cons a l ih =>
    rw [List.mapM_cons]
    refine steady_bind (hf a (by simp)) fun b => ?_
    exact steady_bind (ih fun c hc => hf c (by simp [hc])) fun bs => steady_pure _

theorem steady_find (id : String) : Steady m s (m.find id) := by
  unfold Model.find
  cases m.node? id with
  | some n => exact steady_pure n
  | none => exact ⟨_, fun _ hμ => yields_fail hμ _⟩

theorem steady_allTags (hm : m.Accepted) (id : String) : Steady m s (m.allTags id) :=
  steady_bind (steady_find id) fun _ =>
    steady_bind ⟨_, fun _ hμ => yields_tags hm hμ id⟩ fun _ => steady_pure _

theorem steady_draw (hm : m.Accepted) (id : String) : Steady m s (m.draw id) := by
  refine steady_bind (steady_find id) fun n => ?_
  refine steady_bind ⟨_, fun _ hμ => yields_rootValues hμ⟩ fun root => ?_
  refine steady_bind ⟨_, fun _ hμ => yields_values hm hμ id⟩ fun results => ?_
  exact steady_bind (steady_allTags hm id) fun tags => steady_derive _

theorem steady_column (hm : m.Accepted) (name : String) : Steady m s (m.column name) :=
  steady_mapM fun id _ =>
    steady_bind ⟨_, fun _ hμ => yields_nodeValues hm hμ id⟩ fun _ => steady_derive _

theorem steady_summaryOf (hm : m.Accepted) (name : String) : Steady m s (m.summaryOf name) :=
  steady_bind (steady_derive _) fun _ => steady_bind (steady_column hm name) fun _ =>
    steady_bind (steady_derive _) fun _ => steady_pure _

/-- **Every read is steady.** -/
theorem steady_read (hm : m.Accepted) (r : Read) : Steady m s (m.read r) := by
  cases r with
  | values id => exact steady_bind (steady_find id) fun _ => ⟨_, fun _ hμ => yields_values hm hμ id⟩
  | rootValues => exact ⟨_, fun _ hμ => yields_rootValues hμ⟩
  | edges id => exact steady_bind (steady_find id) fun _ => ⟨_, fun _ hμ => yields_edges hμ id⟩
  | allEdges =>
    refine steady_bind (steady_mapM fun id _ => ⟨_, fun _ hμ => yields_edges hμ id⟩) fun edges => ?_
    exact steady_pure edges.flatten
  | tags id => exact steady_allTags hm id
  | drawing id =>
    exact steady_bind (steady_find id) fun _ => ⟨_, fun _ hμ => yields_drawing hm hμ id⟩
  | drawNode id => exact steady_draw hm id
  | summary => exact steady_mapM fun name _ => steady_summaryOf hm name

end Steady

/-- **One operation keeps the invariant.** -/
theorem memoOK_after (hm : m.Accepted) (hμ : MemoOK m s μ) (op : Operation) :
    MemoOK m (match op with | .enter name => if m.knows name then name else s | _ => s)
      (m.after μ op) := by
  cases op with
  | enter name => exact memoOK_setScenario hμ name
  | invalidate => exact memoOK_forget hμ
  | read r =>
    obtain ⟨_, hr⟩ := steady_read (s := s) hm r
    exact (hr μ hμ).memo

theorem run_snoc (m : Model) (ops : List Operation) (op : Operation) (μ : Memo) :
    m.run (ops ++ [op]) μ = m.after (m.run ops μ) op := by
  simp [Model.run]

theorem active_snoc (m : Model) (ops : List Operation) (op : Operation) :
    m.active (ops ++ [op]) =
      match op with
      | .enter name => if m.knows name then name else m.active ops
      | _ => m.active ops := by
  simp [Model.active]

/-- **At the end of every run** the memo holds outcomes of the active scenario. -/
theorem memoOK_run (hm : m.Accepted) (ops : List Operation) :
    MemoOK m (m.active ops) (m.run ops {}) := by
  induction ops using List.reverseRecOn with
  | nil => exact memoOK_start m
  | append_singleton ops op ih =>
    rw [run_snoc, active_snoc]
    exact memoOK_after hm ih op

/-- The active scenario is known. -/
theorem knows_active (m : Model) (ops : List Operation) : m.knows (m.active ops) = true := by
  induction ops using List.reverseRecOn with
  | nil => simp [Model.active, Model.knows]
  | append_singleton ops op ih =>
    rw [active_snoc]
    cases op with
    | enter name =>
      by_cases hname : m.knows name = true
      · simp [hname]
      · simpa [hname] using ih
    | invalidate => exact ih
    | read r => exact ih

/-- A known node is the root or declared. -/
theorem Model.known_of_node? {n : Node} (h : m.node? id = some n) :
    id = rootId ∨ id ∈ m.definition.nodes := by
  unfold Model.node? at h
  split at h
  · exact Or.inl ‹_›
  · exact Or.inr (Table.mem_of_get? h)

/-- A declared node is known. -/
theorem Model.Accepted.node?_eq (hm : m.Accepted) {n : Node}
    (hn : m.definition.nodes.get? id = some n) : m.node? id = some n := by
  rw [Model.node?, if_neg (hm.nodes id n hn).ne_root, hn]

/-- A session that looks up a known node goes on with it. -/
theorem find_bind {n : Node} (hn : m.node? id = some n) (f : Node → Session α) :
    m.find id >>= f = f n := by
  unfold Model.find
  rw [hn]
  exact pure_bind n f

section Known

variable {n : Node} (hm : m.Accepted) (ops : List Operation) (hn : m.node? id = some n)
include hm hn

/-- **What a read of values gives** at the end of a run, if the node is known. -/
theorem read_values_run :
    (m.read (.values id) (m.run ops {})).result = m.valuesOf (m.scenario (m.active ops)) id := by
  have hfind : m.read (.values id) = m.values id := find_bind hn fun _ => m.values id
  rw [hfind]
  exact (yields_values hm (memoOK_run hm ops) id).result

theorem read_edges_run : (m.read (.edges id) (m.run ops {})).result = m.edgesOf id := by
  have hfind : m.read (.edges id) = m.edges id := find_bind hn fun _ => m.edges id
  rw [hfind]
  exact (yields_edges (memoOK_run hm ops) id).result

theorem read_drawing_run : (m.read (.drawing id) (m.run ops {})).result =
    m.drawingOf (m.scenario (m.active ops)) id := by
  have hfind : m.read (.drawing id) = m.drawing id := find_bind hn fun _ => m.drawing id
  rw [hfind]
  exact (yields_drawing hm (memoOK_run hm ops) id).result

theorem read_tags_run : (m.read (.tags id) (m.run ops {})).result =
    (m.tagsOf id).map fun t => t.values.foldl TagMembership.union ⟨n.tags, n.tags⟩ := by
  have hfind : m.read (.tags id) = m.tags id >>= fun t =>
      pure (t.values.foldl TagMembership.union ⟨n.tags, n.tags⟩) := find_bind hn _
  rw [hfind]
  have hy := yields_tags hm (memoOK_run hm ops) id
  cases ht : m.tagsOf id with
  | ok t => exact (Session.bind_ok (hy.result.trans ht)).1
  | error f => exact (Session.bind_error (hy.result.trans ht)).1

end Known

/-- **What a read of the root gives** at the end of a run. -/
theorem read_rootValues_run (hm : m.Accepted) (ops : List Operation) :
    (m.read .rootValues (m.run ops {})).result = m.rootOf (m.scenario (m.active ops)) :=
  (yields_rootValues (memoOK_run hm ops)).result

/-- A fresh instance keeps the invariant. -/
theorem memoOK_fresh (m : Model) {s : String} (hs : m.knows s = true) : MemoOK m s (m.fresh s) := by
  simpa [hs, Model.fresh] using memoOK_setScenario (memoOK_start m) s

/-- **Memoization is transparent.** After any run, whatever failed on the way, every read gives
what it gives on a fresh instance in the active scenario: the same answer or the same failure. -/
theorem read_run_eq_read_fresh {d : Definition} (h : d.accept = .ok m) (ops : List Operation)
    (r : Read) : (m.run ops {}).scenario = m.active ops ∧
      (m.read r (m.run ops {})).result = (m.read r (m.fresh (m.active ops))).result := by
  obtain ⟨hm, -⟩ := accepted_of_accept h
  have hrun := memoOK_run hm ops
  obtain ⟨_, hr⟩ := steady_read (s := m.active ops) hm r
  refine ⟨hrun.scenario, ?_⟩
  rw [(hr _ hrun).result, (hr _ (memoOK_fresh m (knows_active m ops))).result]

/-- The only override of the river in a drought. -/
theorem override_river (h : m.definition = river) {name : String} {e : Expr}
    (he : ((m.scenario "drought").overrides id).get? name = some e) :
    e = .arithmetic .divide .input (.literal [2.0]) := by
  have hscenario : m.scenario "drought" = river.scenarios.getD "drought" Scenario.blank := by
    rw [Model.scenario, h]
  rw [hscenario] at he
  set drought := river.scenarios.getD "drought" Scenario.blank
  unfold Scenario.overrides Table.getD at he
  cases ho : drought.overlay.get? id with
  | none =>
    rw [ho] at he
    cases he
  | some overrides =>
    rw [ho] at he
    obtain rfl := List.mem_singleton.1 (Table.mem_of_get? ho)
    obtain rfl := Option.some.inj ho
    obtain rfl := List.mem_singleton.1 (Table.mem_of_get? he)
    exact (Option.some.inj he).symm

/-- A drought that comes and goes, with a scenario that is not known in between. -/
theorem read_run_eq_read_fresh_river : ∃ m, river.accept = .ok m ∧
    let ops : List Operation :=
      [.read (.values "mouth"), .enter "drought", .read .summary, .enter "flood", .read (.values "x"),
        .invalidate, .read (.drawing "mouth"), .enter defaultScenario]
    (m.run ops {}).scenario = m.active ops ∧
      (m.read (.values "mouth") (m.run ops {})).result =
        (m.read (.values "mouth") (m.fresh (m.active ops))).result := by
  have h : river.accept = .ok _ := rfl
  exact ⟨_, h, read_run_eq_read_fresh h _ _⟩

end ValuedGraph
