import ValuedGraph.Model.Drawing

/-!
# Sessions

Reading a model computes no more than it needs, and keeps what it has computed in a memo:
expanded edges and tags for good, values and drawn edges as long as the scenario stays, and
the values of the root as long as no scenario touches them. A session is a computation on a
memo. It may fail, and then keeps what it has memoized and logged so far.

* `Model.values`, `Model.rootValues`, `Model.tags`, `Model.edges`, `Model.drawing`: what is
  memoized.
* `Model.setScenario`: goes over to another scenario.
* `Memo.enter`: what is forgotten on the way.
-/

namespace ValuedGraph

/-- **What is known about a model** under a scenario. -/
structure Memo where
  scenario : String := defaultScenario
  edges : Table (List ExpandedEdge) := ∅
  tags : Table (Table TagMembership) := ∅
  values : Table (Table Float) := ∅
  drawn : Table (List DrawnEdge) := ∅
  root : Option (Table Float) := none
  /-- the nodes whose values were computed since values were last forgotten, in this order -/
  computed : List String := []

namespace Memo

/-- A memo of which nothing is left but the scenario. -/
def forget (memo : Memo) : Memo := { scenario := memo.scenario }

/-- **Goes over to another scenario.** Values and drawn edges are forgotten; the values of the
root are if either scenario overrides them. -/
def enter (memo : Memo) (name : String) (previous current : Scenario) : Memo :=
  { memo with
    scenario := name
    values := ∅
    drawn := ∅
    computed := []
    root := if previous.touchesRoot || current.touchesRoot then none else memo.root }

end Memo

/-- **What a session answers:** the memo after it, what it logged, and its result. -/
structure Reply (α : Type) where
  memo : Memo
  log : List LogEntry
  result : Except ReadFailure α

/-- **A computation on a memo.** -/
def Session (α : Type) : Type := Memo → Reply α

namespace Session

variable {α β : Type}

/-- Goes on with the value of a session, if it has one. -/
protected def bind (x : Session α) (f : α → Session β) : Session β := fun memo =>
  let first := x memo
  match first.result with
  | .ok a =>
    let second := f a first.memo
    ⟨second.memo, first.log ++ second.log, second.result⟩
  | .error e => ⟨first.memo, first.log, .error e⟩

instance : Monad Session where
  pure a := fun memo => ⟨memo, [], .ok a⟩
  bind := Session.bind

instance : LawfulMonad Session := LawfulMonad.mk' _
  (fun x => by
    funext μ
    simp only [Functor.map, Session.bind]
    obtain ⟨ν, log, r⟩ := x μ
    cases r <;> simp [Function.comp])
  (fun a f => by
    funext μ
    simp [Bind.bind, Session.bind, Pure.pure])
  (fun x f g => by
    funext μ
    simp only [Bind.bind, Session.bind]
    obtain ⟨ν, log, r⟩ := x μ
    cases r with
    | error e => rfl
    | ok a =>
      simp only
      obtain ⟨ξ, log', r'⟩ := f a ν
      cases r' <;> simp)

/-- The memo. -/
def memo : Session Memo := fun memo => ⟨memo, [], .ok memo⟩

/-- Changes the memo. -/
def update (f : Memo → Memo) : Session Unit := fun memo => ⟨f memo, [], .ok ()⟩

/-- A failure. -/
def fail (e : ReadFailure) : Session α := fun memo => ⟨memo, [], .error e⟩

/-- A computation that does not look at the memo. -/
def derive (x : Derived α) : Session α := fun memo => ⟨memo, x.log, x.result⟩

variable {x : Session α} {f : α → Session β} {μ : Memo}

/-- **A session goes on** with the value and the memo of its first part. -/
theorem bind_ok {a : α} (h : (x μ).result = .ok a) :
    ((x >>= f) μ).result = (f a (x μ).memo).result ∧
      ((x >>= f) μ).memo = (f a (x μ).memo).memo := by
  simp [Bind.bind, Session.bind, h]

/-- **A session ends** with the failure and the memo of its first part. -/
theorem bind_error {e : ReadFailure} (h : (x μ).result = .error e) :
    ((x >>= f) μ).result = .error e ∧ ((x >>= f) μ).memo = (x μ).memo := by
  simp [Bind.bind, Session.bind, h]

/-- **A session that comes to a value** has come to one with its first part. -/
theorem of_bind_ok {b : β} (h : ((x >>= f) μ).result = .ok b) :
    ∃ a, (x μ).result = .ok a ∧ (f a (x μ).memo).result = .ok b ∧
      ((x >>= f) μ).memo = (f a (x μ).memo).memo := by
  cases hx : (x μ).result with
  | ok a =>
    obtain ⟨hresult, hmemo⟩ := bind_ok (f := f) hx
    exact ⟨a, rfl, hresult.symm.trans h, hmemo⟩
  | error e =>
    rw [(bind_error hx).1] at h
    cases h

end Session

namespace Model

/-- The active scenario. -/
def activeScenario (m : Model) : Session Scenario := return m.scenario (← Session.memo).scenario

/-- **Goes over to another scenario,** which has to be known. -/
def setScenario (m : Model) (name : String) : Session Unit := do
  if name != defaultScenario && decide (name ∉ m.definition.scenarios) then
    Session.fail (.unknownScenario name)
  let active := (← Session.memo).scenario
  if name != active then
    Session.update fun memo => memo.enter name (m.scenario active) (m.scenario name)

/-- **The values of the root.** -/
def rootValues (m : Model) : Session (Table Float) := do
  match (← Session.memo).root with
  | some values => return values
  | none =>
    let values ← Session.derive (m.rootTable (← m.activeScenario))
    Session.update fun memo => { memo with root := some values }
    return values

/-- **The edges of a node,** written and implied. The root has none. -/
def edges (m : Model) (id : String) : Session (List ExpandedEdge) := do
  match (← Session.memo).edges.get? id with
  | some edges => return edges
  | none =>
    if id = rootId then return []
    let edges ← Session.derive (m.expandedEdges id)
    Session.update fun memo => { memo with edges := memo.edges.insert id edges }
    return edges

/-- Computes something for a node and, before it, for all nodes that the node refers to,
directly or not. What is known is not computed again. -/
def ensure (m : Model) (known : Memo → String → Bool) (compute : String → Session Unit)
    (id : String) : Session Unit := do
  let memo ← Session.memo
  if !known memo id then
    let above := m.graph.ancestors id
    let pending := m.nodeOrder.filter fun k =>
      above.contains k && k != rootId && !known memo k
    (pending ++ [id]).forM compute

/-- Computes the tags of a node from those of its refs. -/
def computeTags (m : Model) (id : String) : Session Unit := do
  let edges ← m.edges id
  let table ← Session.derive (m.tagTable id edges (← Session.memo).tags)
  Session.update fun memo => { memo with tags := memo.tags.insert id table }

/-- **The tags of a node,** for each property. -/
def tags (m : Model) (id : String) : Session (Table TagMembership) := do
  if id = rootId then return m.rootTags
  m.ensure (fun memo k => (memo.tags.get? k).isSome) m.computeTags id
  Session.derive (Derived.entry (← Session.memo).tags id)

/-- What the values of a node are computed from. -/
def inputs (m : Model) (id : String) : Session Inputs := do
  let node ← Session.derive (m.node id)
  let overrides := (← m.activeScenario).overrides id
  let root ← m.rootValues
  let edges ← m.edges id
  let tags ← m.tags id
  return { node, overrides, root, edges, tags, known := (← Session.memo).values }

/-- Computes the values of a node from those of its refs. -/
def computeValues (m : Model) (id : String) : Session Unit := do
  let table ← Session.derive (m.valueTable (← m.inputs id))
  Session.update fun memo =>
    { memo with values := memo.values.insert id table, computed := memo.computed ++ [id] }

/-- The values of a node other than the root. -/
def nodeValues (m : Model) (id : String) : Session (Table Float) := do
  m.ensure (fun memo k => (memo.values.get? k).isSome) m.computeValues id
  Session.derive (Derived.entry (← Session.memo).values id)

/-- **The values of a node.** -/
def values (m : Model) (id : String) : Session (Table Float) :=
  if id = rootId then m.rootValues else m.nodeValues id

/-- **The edges of a node as they are drawn.** The root has none. -/
def drawing (m : Model) (id : String) : Session (List DrawnEdge) := do
  if id = rootId then return []
  match (← Session.memo).drawn.get? id with
  | some drawn => return drawn
  | none =>
    let values ← m.nodeValues id
    let drawn ← Session.derive (m.drawnEdges id (← m.inputs id) values)
    Session.update fun memo => { memo with drawn := memo.drawn.insert id drawn }
    return drawn

end Model

end ValuedGraph
