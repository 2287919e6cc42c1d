import ValuedGraph.Proofs.Model.Correspondence

/-!
# Locality

What is read of a node comes from the node, from those that its edges lead to, directly or not,
and from the root. Two models with the same properties that agree on these give the same answers
for the node, whatever else is in them, and whatever was read before. Only the values of a node,
which are those of the root where it has no edges, may depend on one thing more: the order in which
the overrides of the root are written.

* `Model.Accepted.propertyOrder_eq`: the order of properties depends on nothing else.
* `reads_are_local`: **edges, tags and values of a node** in two models.
* `SameReading.get?_eq`: a value that tells two readings apart.
* `gross_of_shop`: the same overrides of the root in two orders, and two values of a node.
-/

namespace ValuedGraph

open Relation

variable {m m' : Model}

/-- **The order of properties** is the same in all models with the same properties. -/
theorem Model.Accepted.propertyOrder_eq (hm : m.Accepted) (hm' : m'.Accepted)
    (h : m.definition.properties = m'.definition.properties) : m.propertyOrder = m'.propertyOrder := by
  have horder := hm.propertyOrder
  unfold Definition.propertyOrder Definition.dependencyGraph at horder
  rw [h] at horder
  exact Except.ok.inj (horder.symm.trans hm'.propertyOrder)

/-- **What is read of a node is local.** Two accepted definitions have the same properties, values
of the root and tags. A node is the same in both, and so is every node that it refers to, directly
or not, together with the overrides of these nodes and of the root under the active scenarios. Then
after any runs, the edges of the node are the same in both models, and its tags are. Its values are
the same or cannot be read in either of them, if each override of the root has in front of it the
same of those that it names, since it reads what these have set. -/
theorem reads_are_local {d d' : Definition} (h : d.accept = .ok m) (h' : d'.accept = .ok m')
    (hproperties : d.properties = d'.properties) (hgiven : d.root = d'.root) (htags : d.tags = d'.tags)
    (ops ops' : List Operation) {id : String} (hid : id ∈ d.nodes)
    (hnodes : ∀ k, ReflTransGen (fun a b => b ∈ m.refs a) id k → d.nodes.get? k = d'.nodes.get? k)
    (hoverrides : ∀ k, k = rootId ∨ ReflTransGen (fun a b => b ∈ m.refs a) id k → ∀ name,
      ((m.scenario (m.active ops)).overrides k).get? name =
        ((m'.scenario (m'.active ops')).overrides k).get? name) :
    let μ := m.run ops {}
    let μ' := m'.run ops' {}
    let overrides := (m.scenario (m.active ops)).overrides rootId
    let overrides' := (m'.scenario (m'.active ops')).overrides rootId
    (m.read (.edges id) μ).result = (m'.read (.edges id) μ').result ∧
      (m.tags id μ).result = (m'.tags id μ').result ∧
      (m.read (.tags id) μ).result = (m'.read (.tags id) μ').result ∧
      ((∀ name e, overrides.get? name = some e → ∀ k, e.Names k →
          (overrides.InFront k name ↔ overrides'.InFront k name)) →
        SameReading (m.read (.values id) μ).result (m'.read (.values id) μ').result) := by
  intro μ μ' overrides overrides'
  obtain ⟨hm, rfl⟩ := accepted_of_accept h
  obtain ⟨hm', rfl⟩ := accepted_of_accept h'
  -- the two models are alike on the node and on all nodes above it
  have halike : m.Alike m' (ReflTransGen (fun a b => b ∈ m.refs a) id) :=
    { left := hm
      right := hm'
      nodes := hnodes
      refs := fun k hk r hr => hk.tail hr
      flow := fun name => by rw [hproperties] }
  have hself : ReflTransGen (fun a b => b ∈ m.refs a) id id := .refl
  obtain ⟨n, hn⟩ := Table.exists_get? hid
  have hne : id ≠ rootId := (hm.nodes id n hn).ne_root
  have hknown : m.node? id = some n := by rw [Model.node?, if_neg hne, hn]
  have hknown' : m'.node? id = some n := by rw [Model.node?, if_neg hne, ← hnodes id hself, hn]
  have hsame : m.tagsOf id = m'.tagsOf id :=
    halike.tagsOf_eq (congrArg Table.keys hproperties) hid hself
  refine ⟨?_, ?_, ?_, fun hfront => ?_⟩
  · exact (read_edges_run hm ops hknown).trans
      ((halike.edgesOf_eq hself).trans (read_edges_run hm' ops' hknown').symm)
  · rw [(yields_tags hm (memoOK_run hm ops) id).result,
      (yields_tags hm' (memoOK_run hm' ops') id).result, hsame]
  · refine (read_tags_run hm ops hknown).trans ?_
    rw [hsame]
    exact (read_tags_run hm' ops' hknown').symm
  · have hcorr := halike.correspond (fun name => by rw [hproperties]) hgiven htags
      ⟨hoverrides rootId (Or.inl rfl), hfront⟩ fun k hk => hoverrides k (Or.inr hk)
    rw [read_values_run hm ops hknown, read_values_run hm' ops' hknown']
    refine hcorr.sameReading (fun k hk name e he j hj => ?_) (Or.inr ⟨hid, hself⟩)
    unfold Model.InFront
    rw [hm.propertyOrder_eq hm' hproperties]

/-- Less rain, and a depth of the root. -/
def lessRain : List (String × Expr) :=
  [("flow", .arithmetic .divide .input (.literal [2.0])), ("depth", .literal [1.0])]

/-- The river, with a drought of the root. -/
def dryRiver : Definition :=
  { river with
    scenarios := .ofList [("drought",
      { name := "drought"
        overlay := .ofList [
          (rootId, .ofList lessRain),
          ("spring", .ofList [("flow", .arithmetic .divide .input (.literal [2.0]))])] })] }

/-- A river with a lake below its mouth, and a drought with other overrides for the lake, and with
those of the root in another order. -/
def delta : Definition :=
  { river with
    nodes := .ofList [
      ("lake", { edges := [{ type := "flow", ref := some "mouth" }, { type := "depth" }] }),
      ("spring", { edges := [{ type := "flow" }] }),
      ("mouth", { edges := [{ type := "flow", ref := some "spring" }] })]
    scenarios := .ofList [("drought",
      { name := "drought"
        overlay := .ofList [
          ("lake", .ofList [("depth", .literal [0.5])]),
          (rootId, .ofList lessRain.reverse),
          ("spring", .ofList [("flow", .arithmetic .divide .input (.literal [2.0]))])] })] }

/-- The mouth of the river does not depend on the lake. -/
theorem reads_are_local_delta : ∃ m m', dryRiver.accept = .ok m ∧ delta.accept = .ok m' ∧
    let μ := m.run [.enter "drought"] {}
    let μ' := m'.run [.enter "drought", .read (.values "lake")] {}
    (m.read (.edges "mouth") μ).result = (m'.read (.edges "mouth") μ').result ∧
      (m.tags "mouth" μ).result = (m'.tags "mouth" μ').result ∧
      (m.read (.tags "mouth") μ).result = (m'.read (.tags "mouth") μ').result ∧
      SameReading (m.read (.values "mouth") μ).result (m'.read (.values "mouth") μ').result := by
  have h : dryRiver.accept = .ok _ := rfl
  have h' : delta.accept = .ok _ := rfl
  -- only the spring is above the mouth
  have hrefs : ∀ m : Model, m.definition = dryRiver →
      m.refs "mouth" = ["spring"] ∧ m.refs "spring" = [] := by
    intro m hm
    unfold Model.refs
    rw [hm]
    exact ⟨rfl, rfl⟩
  have habove : ∀ m : Model, m.definition = dryRiver →
      ∀ k, ReflTransGen (fun a b => b ∈ m.refs a) "mouth" k → k = "mouth" ∨ k = "spring" := by
    intro m hm k hk
    obtain ⟨hmouth, hspring⟩ := hrefs m hm
    induction hk with
    | refl => exact Or.inl rfl
    | tail _ hr ih =>
      rcases ih with rfl | rfl
      · exact Or.inr (List.mem_singleton.1 (hmouth ▸ hr))
      · simp [hspring] at hr
  have hmouth : "mouth" ∈ dryRiver.nodes := by decide
  obtain ⟨hedges, htags, hread, hvalues⟩ := reads_are_local h h' rfl rfl rfl [.enter "drought"]
    [.enter "drought", .read (.values "lake")] hmouth
    (fun k hk => by rcases habove _ rfl k hk with rfl | rfl <;> rfl)
    (fun k hk => by
      rcases hk with rfl | hk
      · exact Table.get?_of_perm (List.Perm.swap _ _ _)
      · rcases habove _ rfl k hk with rfl | rfl <;> exact fun _ => rfl)
  refine ⟨_, _, h, h', hedges, htags, hread, hvalues fun name e he k hk => ?_⟩
  -- the overrides of the root name nothing
  have hmem : (name, e) ∈ lessRain := Table.get?_eq_some_iff.1 he
  simp only [lessRain, List.mem_cons, List.not_mem_nil, or_false] at hmem
  rcases hmem with hrain | hdepth
  · obtain ⟨rfl, rfl⟩ := Prod.mk.inj hrain
    simp [Expr.Names, Expr.walk_eq, Expr.children] at hk
  · obtain ⟨rfl, rfl⟩ := Prod.mk.inj hdepth
    simp [Expr.Names, Expr.walk_eq, Expr.children] at hk

/-- Readings with the same outcome have the same values. -/
theorem SameReading.get?_eq {r r' : Except ReadFailure (Table Float)} (h : SameReading r r')
    (k : String) : r.toOption.bind (·.get? k) = r'.toOption.bind (·.get? k) := by
  cases h with
  | values h => exact h k
  | failures f f' => rfl

/-- A scenario that overrides values of the root has no other overrides. -/
theorem overrides_rootScenario {name node : String} {l : List (String × Expr)} (hne : node ≠ rootId) :
    (rootScenario name l).2.overrides node = ∅ := by
  unfold Scenario.overrides Table.getD
  cases ho : (rootScenario name l).2.overlay.get? node with
  | none => rfl
  | some t => exact absurd (get?_rootScenario ho).1 hne

/-- The price list, with a shop that has the prices of the root. -/
def shop : Definition := { priceList with nodes := .ofList [("shop", {})] }

/-- **The order of two overrides of the root matters to a node.** Two scenarios have the same
overrides everywhere, but with those of the root in two orders. The gross price of the shop is the
net price before it is overridden under the first one, and the overridden one under the second. -/
theorem gross_of_shop : ∃ m, shop.accept = .ok m ∧
    (∀ k name, ((m.scenario (m.active [.enter "grossFirst"])).overrides k).get? name =
      ((m.scenario (m.active [.enter "netFirst"])).overrides k).get? name) ∧
    ¬ SameReading (m.read (.values "shop") (m.run [.enter "grossFirst"] {})).result
      (m.read (.values "shop") (m.run [.enter "netFirst"] {})).result := by
  have h : shop.accept = .ok _ := rfl
  refine ⟨_, h, fun k => ?_, fun hsame => ?_⟩
  · by_cases hroot : k = rootId
    · subst hroot
      exact Table.get?_of_perm (List.Perm.swap _ _ _)
    · intro name
      change ((rootScenario "grossFirst" _).2.overrides k).get? name =
        ((rootScenario "netFirst" _).2.overrides k).get? name
      rw [overrides_rootScenario hroot, overrides_rootScenario hroot]
  · exact absurd (hsame.get?_eq "gross") (by decide +kernel)

end ValuedGraph
