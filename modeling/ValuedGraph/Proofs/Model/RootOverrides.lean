import ValuedGraph.Proofs.Model.Acceptable
import ValuedGraph.Proofs.Model.Agreement

/-!
# The order of overrides of the root

The overrides of the root are applied in the order in which they are written, and each of them sees
the values so far: the final values of the properties overridden in front of it, and the values
that the root starts from everywhere else. So two orders give the same values if no override is
moved across one that it names, and may give different values otherwise.

* `Table.SameFront`: overrides in two orders, neither of which moves one across another that it names.
* `Model.RootOverride`: what an override comes to behind some others.
* `Model.RootOverlay`, `foldlM_overrideRoot_ok`: **the values of the root, override by override.**
* `Model.RootOverlay.of_sameFront`: the overrides in another order.
* `Definition.Rearranged`: scenarios that write the overrides of a definition elsewhere.
* `order_of_root_overrides`: **what the order of overrides decides, and what it does not.**
* `gross_before_net`: two orders with different values.
-/

namespace ValuedGraph

/-- **A name that stands in front of another one** in a table. -/
def Table.InFront {α : Type} (t : Table α) (k name : String) : Prop :=
  ∃ before after, t.keys = before ++ name :: after ∧ k ∈ before

/-- There is one place for an entry in a table. -/
theorem Table.inFront_iff {α : Type} {t : Table α} {before after : List (String × α)}
    {e : String × α} (h : t.entries = before ++ e :: after) {k : String} :
    t.InFront k e.1 ↔ k ∈ before.map Prod.fst := by
  have hkeys : t.keys = before.map Prod.fst ++ e.1 :: after.map Prod.fst := by
    rw [Table.keys, h, List.map_append, List.map_cons]
  exact mem_before_iff t.nodup_keys hkeys

/-- Tables with the same values list the same entries. -/
theorem Table.perm_of_get? {α : Type} {t u : Table α} (h : ∀ k, t.get? k = u.get? k) :
    t.entries.Perm u.entries := by
  refine (List.perm_ext_iff_of_nodup t.nodup.of_map u.nodup.of_map).2 fun e => ?_
  rw [← Table.get?_eq_some_iff, ← Table.get?_eq_some_iff, h]

/-- **The same overrides in two orders,** each with the same of those that it names in front. -/
structure Table.SameFront (t t' : Table Expr) : Prop where
  same : ∀ name, t.get? name = t'.get? name
  front : ∀ name e, t.get? name = some e → ∀ k, e.Names k → (t.InFront k name ↔ t'.InFront k name)

namespace Table.SameFront

variable {t t' : Table Expr}

theorem refl (t : Table Expr) : t.SameFront t := ⟨fun _ => rfl, fun _ _ _ _ _ => Iff.rfl⟩

theorem symm (h : t.SameFront t') : t'.SameFront t where
  same name := (h.same name).symm
  front name e he k hk := (h.front name e ((h.same name).trans he) k hk).symm

theorem perm (h : t.SameFront t') : t.entries.Perm t'.entries := perm_of_get? h.same

end Table.SameFront

namespace Model

variable {m : Model} {given final final' : Table Float} {written written' : List String}
  {name : String} {e : Expr} {l : List (String × Expr)}

/-- **What an override of the root comes to** behind overrides of some other properties: it sees the
final values of these, and the values that the root starts from of all others. -/
inductive RootOverride (m : Model) (given final : Table Float) (written : List String)
    (name : String) (e : Expr) : Prop where
  | mk {seen : Table Float} {base x : Float}
      (hseen : ∀ k, e.Names k →
        seen.get? k = if k ∈ written then final.get? k else given.get? k)
      (hbase : given.get? name = some base)
      (hx : (m.overridden name e { root := seen, results := seen, input := some [base] }).result =
        .ok x)
      (hfinal : final.get? name = some x) : RootOverride m given final written name e

/-- **The values of the root under overrides,** which are applied one after the other. -/
structure RootOverlay (m : Model) (given : Table Float) (l : List (String × Expr))
    (final : Table Float) : Prop where
  keys : final.keys = given.keys
  others : ∀ k ∉ l.map Prod.fst, final.get? k = given.get? k
  overrides : ∀ before e after, l = before ++ e :: after →
    m.RootOverride given final (before.map Prod.fst) e.1 e.2

/-- An override comes to the same where it sees the same. -/
theorem overridden_of_seen {seen seen' : Table Float} {input : Option (List Float)} {x : Float}
    (hseen : ∀ k, e.Names k → seen.get? k = seen'.get? k)
    (h : (m.overridden name e { root := seen, results := seen, input }).result = .ok x) :
    (m.overridden name e { root := seen', results := seen', input }).result = .ok x := by
  have hagree : seen.AgreeOn e.Names seen' := hseen
  refine overridden_of_belowFor rfl rfl ?_ h
  exact ⟨rfl, List.Forall₂.nil, hagree.belowOn fun k hk => Or.inr (Or.inl hk),
    hagree.belowOn fun k hk => Or.inr (Or.inr hk), rfl, rfl, rfl, rfl⟩

/-- Other values do not matter to an override, nor do other places. -/
theorem RootOverride.congr (h : m.RootOverride given final written name e)
    (hname : final.get? name = final'.get? name)
    (hwritten : ∀ k, e.Names k → (k ∈ written ↔ k ∈ written'))
    (hfinal : ∀ k ∈ written, final.get? k = final'.get? k) :
    m.RootOverride given final' written' name e := by
  obtain ⟨hseen, hbase, hx, hvalue⟩ := h
  refine ⟨fun k hk => (hseen k hk).trans ?_, hbase, hx, hname ▸ hvalue⟩
  by_cases hmem : k ∈ written
  · rw [if_pos hmem, if_pos ((hwritten k hk).1 hmem), hfinal k hmem]
  · rw [if_neg hmem, if_neg fun h => hmem ((hwritten k hk).2 h)]

/-- Overrides come to the same in a table with the same values of all that is overridden. -/
theorem overrides_of_kept (hkept : ∀ k ∈ l.map Prod.fst, final.get? k = final'.get? k)
    {before after : List (String × Expr)} {e : String × Expr} (hl : l = before ++ e :: after)
    (h : m.RootOverride given final (before.map Prod.fst) e.1 e.2) :
    m.RootOverride given final' (before.map Prod.fst) e.1 e.2 := by
  subst hl
  refine h.congr (hkept _ (by simp)) (fun _ _ => Iff.rfl) fun k hk => hkept k ?_
  rw [List.map_append, List.mem_append]
  exact Or.inl hk

/-- The values that an override behind all others sees. -/
theorem RootOverlay.get?_eq (h : m.RootOverlay given l final)
    (hkept : ∀ k ∈ l.map Prod.fst, final.get? k = final'.get? k) (k : String) :
    final.get? k = if k ∈ l.map Prod.fst then final'.get? k else given.get? k := by
  split
  · exact hkept k ‹_›
  · exact h.others k ‹_›

section Concat

variable {u v : Table Float} {e : String × Expr} (he : e.1 ∉ l.map Prod.fst)
include he

/-- What is written last does not change what is overridden in front of it. -/
theorem get?_insert_last (t : Table Float) (x : Float) :
    ∀ k ∈ l.map Prod.fst, (t.insert e.1 x).get? k = t.get? k := fun k hk =>
  Table.get?_insert_of_ne _ _ fun heq : k = e.1 => he (heq ▸ hk)

/-- **One override more** sees what the others have come to. -/
theorem RootOverlay.concat (h : m.RootOverlay given l u) (hstep : (m.overrideRoot u e).result = .ok v) :
    m.RootOverlay given (l ++ [e]) v := by
  obtain ⟨base, x, hbase, hx, rfl⟩ := overrideRoot_ok.1 hstep
  have hkept : ∀ k ∈ l.map Prod.fst, u.get? k = (u.insert e.1 x).get? k := fun k hk =>
    (get?_insert_last he u x k hk).symm
  refine ⟨?_, fun k hk => ?_, ?_⟩
  · rw [Table.keys_insert, if_pos (Table.mem_of_get? hbase), h.keys]
  · rw [List.map_append, List.mem_append, not_or] at hk
    rw [Table.get?_insert_of_ne _ _ fun heq => hk.2 (by simp [heq]), h.others k hk.1]
  · refine forall_split_snoc (fun before e' after hl =>
      overrides_of_kept hkept hl (h.overrides before e' after hl)) ?_
    exact ⟨fun k _ => h.get?_eq hkept k, (h.others _ he).symm.trans hbase, hx,
      Table.get?_insert_self _ _ _⟩

/-- **The last override** is applied to the values of the root under those in front of it. -/
theorem RootOverlay.exists_of_concat (h : m.RootOverlay given (l ++ [e]) v) :
    ∃ u, m.RootOverlay given l u ∧ (m.overrideRoot u e).result = .ok v := by
  obtain @⟨_, base, x, hseen, hbase, hx, hvalue⟩ := h.overrides l e [] rfl
  have hkept := get?_insert_last he v base
  -- in front of the last override, its property still has the value that the root starts from
  have hu : m.RootOverlay given l (v.insert e.1 base) := by
    refine ⟨?_, fun k hk => ?_, fun before e' after hl => ?_⟩
    · rw [Table.keys_insert, if_pos (Table.mem_of_get? hvalue), h.keys]
    · by_cases hlast : k = e.1
      · rw [hlast, Table.get?_insert_self, hbase]
      · rw [Table.get?_insert_of_ne _ _ hlast, h.others k (by simp_all)]
    · refine overrides_of_kept (fun k hk => (hkept k hk).symm) hl ?_
      exact h.overrides before e' (after ++ [e]) (by simp [hl])
  refine ⟨v.insert e.1 base, hu, overrideRoot_ok.2 ⟨base, x, Table.get?_insert_self _ _ _, ?_, ?_⟩⟩
  · exact overridden_of_seen (fun k hk => (hseen k hk).trans (hu.get?_eq hkept k).symm) hx
  · exact (Table.insert_back hvalue base).symm

end Concat

/-- **The values of the root, override by override.** -/
theorem foldlM_overrideRoot_ok (hnd : (l.map Prod.fst).Nodup) :
    (l.foldlM m.overrideRoot given).result = .ok final ↔ m.RootOverlay given l final := by
  -- from the back, since an override sees those in front of it finished
  induction l using List.reverseRecOn generalizing final with
  | nil =>
    constructor
    · intro h
      obtain rfl := Except.ok.inj h
      exact ⟨rfl, fun _ _ => rfl, fun before e after hsplit => by simp at hsplit⟩
    · intro h
      rw [Table.ext_get? h.keys fun k => h.others k (by simp)]
      rfl
  | append_singleton l e ih =>
    rw [List.map_append, List.map_singleton, List.nodup_append] at hnd
    have he : e.1 ∉ l.map Prod.fst := fun hm => hnd.2.2 _ hm e.1 (by simp) rfl
    rw [Traced.result_foldlM_append]
    constructor
    · rintro ⟨u, hu, hlast⟩
      obtain ⟨v, hv, hnil⟩ := Traced.result_foldlM_cons.1 hlast
      obtain rfl := Except.ok.inj hnil
      exact ((ih hnd.1).1 hu).concat he hv
    · intro h
      obtain ⟨u, hu, hlast⟩ := h.exists_of_concat he
      exact ⟨u, (ih hnd.1).2 hu, Traced.result_foldlM_cons.2 ⟨_, hlast, rfl⟩⟩

/-- **Overrides of the root in another order** come to the same, if they have in front of them the
same of those that they name. -/
theorem RootOverlay.of_sameFront {t t' : Table Expr} (h : m.RootOverlay given t.entries final)
    (hsame : t.SameFront t') : m.RootOverlay given t'.entries final := by
  have hnames := hsame.perm.map Prod.fst
  refine ⟨h.keys, fun k hk => h.others k fun hm => hk (hnames.mem_iff.1 hm), ?_⟩
  intro before' e after' hsplit'
  have hmem : e ∈ t.entries := hsame.perm.mem_iff.2 (hsplit' ▸ by simp)
  obtain ⟨before, after, hsplit⟩ := List.append_of_mem hmem
  -- the final values stay, so only what an override finds written could change
  refine (h.overrides before e after hsplit).congr rfl (fun k hk => ?_) fun _ _ => rfl
  rw [← Table.inFront_iff hsplit, ← Table.inFront_iff hsplit']
  exact hsame.front e.1 e.2 (Table.get?_eq_some_iff.2 hmem) k hk

end Model

namespace Definition

/-- **An override that is written in a definition,** in one of its scenarios. -/
def Overrides (d : Definition) (node property : String) (e : Expr) : Prop :=
  ∃ name s t, d.scenarios.get? name = some s ∧ s.overlay.get? node = some t ∧
    t.get? property = some e

/-- **Scenarios that write overrides of a definition elsewhere:** in another order, or in other
scenarios, such as those that they extend. -/
structure Rearranged (d : Definition) (scenarios : Table Scenario) : Prop where
  ne_default : defaultScenario ∉ scenarios
  nodes : ∀ name s node, scenarios.get? name = some s → node ∈ s.overlay →
    node = rootId ∨ node ∈ d.nodes
  overrides : ∀ node property e, ({ d with scenarios } : Definition).Overrides node property e →
    d.Overrides node property e

variable {d : Definition} {scenarios : Table Scenario} {m m' : Model}

/-- The checks of properties and nodes do not read scenarios. -/
theorem PropertyOK.with_scenarios {name : String} {p : Property} (h : d.PropertyOK name p) :
    ({ d with scenarios } : Definition).PropertyOK name p where
  dependencies := h.dependencies
  implies := h.implies
  unreserved := h.unreserved
  value := h.value
  display := h.display

theorem NodeOK.with_scenarios {id : String} {n : Node} (h : d.NodeOK id n) :
    ({ d with scenarios } : Definition).NodeOK id n where
  ne_root := h.ne_root
  values := h.values
  tags := h.tags
  edges e he := ⟨(h.edges e he).type, (h.edges e he).ref, (h.edges e he).unreserved⟩
  display := h.display

/-- An override that is fine in one scenario is fine in every other one. -/
theorem Rearranged.scenarioOK (h : d.Rearranged scenarios)
    (hd : ∀ name s, d.scenarios.get? name = some s → d.ScenarioOK name s) {name : String}
    {s : Scenario} (hs : scenarios.get? name = some s) :
    ({ d with scenarios } : Definition).ScenarioOK name s where
  ne_default := fun heq => h.ne_default (heq ▸ Table.mem_of_get? hs)
  nodes node overrides ho := h.nodes name s node hs (Table.mem_of_get? (Table.get?_eq_some_iff.2 ho))
  overrides node overrides ho property e he := by
    obtain ⟨name', s', t', hs', ht', he'⟩ := h.overrides node property e
      ⟨name, s, overrides, hs, Table.get?_eq_some_iff.2 ho, Table.get?_eq_some_iff.2 he⟩
    obtain ⟨hproperty, hvalid⟩ := (hd name' s' hs').overrides node t' (Table.get?_eq_some_iff.1 ht')
      property e (Table.get?_eq_some_iff.1 he')
    exact ⟨hproperty, hvalid.of_properties_owner (fun _ hk => hk) _⟩

/-- **A definition stays accepted** if its overrides are written elsewhere. -/
theorem Rearranged.exists_accept (h : d.Rearranged scenarios) (haccept : d.accept = .ok m) :
    ∃ m', ({ d with scenarios } : Definition).accept = .ok m' := by
  obtain ⟨hm, rfl⟩ := accepted_of_accept haccept
  have hm' : Model.Accepted { m with definition := { m.definition with scenarios } } :=
    { properties := fun name p hp => (hm.properties name p hp).with_scenarios
      propertyOrder := hm.propertyOrder
      root := hm.root
      nodeDisplay := hm.nodeDisplay
      mergedDisplay := hm.mergedDisplay
      nodes := fun id n hn => (hm.nodes id n hn).with_scenarios
      scenarios := fun name s hs => h.scenarioOK hm.scenarios hs
      graph := hm.graph
      nodeOrder := hm.nodeOrder }
  exact ⟨_, hm'.accept⟩

end Definition

variable {d : Definition} {m : Model}

/-- The values of the root under a scenario, override by override. -/
theorem Model.rootOf_ok {σ : Scenario} {v : Table Float} : m.rootOf σ = .ok v ↔
    m.RootOverlay ((m.definition.properties.map fun _ _ => 0.0).overlay m.definition.root)
      (σ.overrides rootId).entries v :=
  foldlM_overrideRoot_ok (Table.nodup _)

/-- **Two scenarios with the same overrides of the root,** of which each has in front of it the same
of those that it names, have the same values of the root. -/
theorem Model.rootOf_of_sameFront {σ σ' : Scenario}
    (h : (σ.overrides rootId).SameFront (σ'.overrides rootId)) {v : Table Float}
    (hv : m.rootOf σ = .ok v) : m.rootOf σ' = .ok v :=
  rootOf_ok.2 ((rootOf_ok.1 hv).of_sameFront h)

/-- The values of the root under a scenario do not depend on other scenarios. -/
theorem Model.rootOf_with_scenarios {m' : Model} {scenarios : Table Scenario}
    (h : m'.definition = { m.definition with scenarios }) (σ : Scenario) :
    m'.rootOf σ = m.rootOf σ := by
  obtain ⟨d', order', graph', nodes'⟩ := m'
  obtain rfl : d' = _ := h
  rfl

/-- **The order of overrides of the root.** After any runs, the values of the root of an accepted
definition are those that it starts from under the overrides of the active scenario, each of which
sees the final values of those in front of it. Now let the same overrides be written elsewhere, in
another order or in other scenarios. The definition stays accepted. If a scenario has the same
overrides of the root as one before, and each of them has in front of it the same of those that it
names, then the values of the root are the same under both, or cannot be read under either. -/
theorem order_of_root_overrides (haccept : d.accept = .ok m) :
    (∀ ops v, (m.read .rootValues (m.run ops {})).result = .ok v ↔
      m.RootOverlay ((d.properties.map fun _ _ => 0.0).overlay d.root)
        ((m.scenario (m.active ops)).overrides rootId).entries v) ∧
    ∀ scenarios, d.Rearranged scenarios →
      ∃ m', ({ d with scenarios } : Definition).accept = .ok m' ∧ ∀ ops ops',
        let overrides := (m.scenario (m.active ops)).overrides rootId
        let overrides' := (m'.scenario (m'.active ops')).overrides rootId
        overrides.entries.Perm overrides'.entries →
          (∀ name e, overrides.get? name = some e → ∀ k, e.Names k →
            (overrides.InFront k name ↔ overrides'.InFront k name)) →
          ∀ v, (m.read .rootValues (m.run ops {})).result = .ok v ↔
            (m'.read .rootValues (m'.run ops' {})).result = .ok v := by
  obtain ⟨hm, rfl⟩ := accepted_of_accept haccept
  have hread : ∀ ops v, (m.read .rootValues (m.run ops {})).result = .ok v ↔
      m.RootOverlay _ ((m.scenario (m.active ops)).overrides rootId).entries v := fun ops v => by
    rw [read_rootValues_run hm ops]
    exact Model.rootOf_ok
  refine ⟨hread, fun scenarios h => ?_⟩
  obtain ⟨m', haccept'⟩ := h.exists_accept haccept
  obtain ⟨hm', hdefinition⟩ := accepted_of_accept haccept'
  have hread' : ∀ ops v, (m'.read .rootValues (m'.run ops {})).result = .ok v ↔
      m.RootOverlay _ ((m'.scenario (m'.active ops)).overrides rootId).entries v := fun ops v => by
    rw [read_rootValues_run hm' ops, Model.rootOf_with_scenarios hdefinition]
    exact Model.rootOf_ok
  refine ⟨m', haccept', ?_⟩
  intro ops ops' overrides overrides' hperm hfront v
  have hsame : overrides.SameFront overrides' := ⟨Table.get?_of_perm hperm, hfront⟩
  rw [hread, hread']
  exact ⟨fun hv => hv.of_sameFront hsame, fun hv => hv.of_sameFront hsame.symm⟩

/-- The overrides of a price list: the gross price is the net price. -/
def grossOverride : String × Expr := ("gross", .resultValue "net")

def netOverride : String × Expr := ("net", .literal [5.0])

def feeOverride : String × Expr := ("fee", .literal [2.0])

/-- A scenario that overrides values of the root. -/
def rootScenario (name : String) (overrides : List (String × Expr)) (parent : Option String := none) :
    String × Scenario :=
  (name, { name, parent, overlay := .ofList [(rootId, .ofList overrides)] })

/-- A price list with the same overrides in two orders. -/
def priceList : Definition where
  properties := .ofList [
    ("net", { name := "net", value := .literal [1.0] }),
    ("gross", { name := "gross", value := .resultValue "net", dependencies := ["net"] }),
    ("fee", { name := "fee", value := .literal [1.0] })]
  scenarios := .ofList [
    rootScenario "grossFirst" [grossOverride, netOverride, feeOverride],
    rootScenario "netFirst" [netOverride, grossOverride, feeOverride]]

/-- The fee is moved to a scenario that another one extends, and so to the front. -/
def feeFirst : Table Scenario := .ofList [
  rootScenario "fees" [feeOverride],
  rootScenario "offer" [feeOverride, grossOverride, netOverride] (some "fees")]

theorem get?_rootScenario {name node : String} {l : List (String × Expr)} {parent : Option String}
    {t : Table Expr} (h : (rootScenario name l parent).2.overlay.get? node = some t) :
    node = rootId ∧ t = .ofList l := by
  have hmem : (node, t) ∈ [(rootId, Table.ofList l)] := Table.get?_eq_some_iff.1 h
  exact Prod.mk.inj (List.mem_singleton.1 hmem)

/-- What the scenarios with the fee in front override is overridden in the price list. -/
theorem overrides_feeFirst {name node : String} {s : Scenario} {t : Table Expr}
    (hs : feeFirst.get? name = some s) (ht : s.overlay.get? node = some t) : node = rootId ∧
      ∀ e ∈ t.entries, e ∈ [grossOverride, netOverride, feeOverride] := by
  have hmem : (name, s) ∈ [rootScenario "fees" [feeOverride],
      rootScenario "offer" [feeOverride, grossOverride, netOverride] (some "fees")] :=
    Table.get?_eq_some_iff.1 hs
  simp only [List.mem_cons, List.not_mem_nil, or_false] at hmem
  rcases hmem with hfees | hoffer
  · obtain ⟨rfl, rfl⟩ := Prod.mk.inj hfees
    obtain ⟨rfl, rfl⟩ := get?_rootScenario ht
    refine ⟨rfl, fun e (he : e ∈ [feeOverride]) => ?_⟩
    simp_all
  · obtain ⟨rfl, rfl⟩ := Prod.mk.inj hoffer
    obtain ⟨rfl, rfl⟩ := get?_rootScenario ht
    refine ⟨rfl, fun e (he : e ∈ [feeOverride, grossOverride, netOverride]) => ?_⟩
    simp only [List.mem_cons] at he ⊢
    tauto

/-- The scenarios with the fee in front write overrides of the price list. -/
theorem rearranged_feeFirst : priceList.Rearranged feeFirst where
  ne_default := by decide
  nodes name s node hs hnode := by
    obtain ⟨t, ht⟩ := Table.exists_get? hnode
    exact Or.inl (overrides_feeFirst hs ht).1
  overrides := by
    rintro node property e ⟨name, s, t, hs, ht, he⟩
    obtain ⟨rfl, hmem⟩ := overrides_feeFirst hs ht
    refine ⟨"grossFirst", _, _, rfl, rfl, Table.get?_eq_some_iff.2 ?_⟩
    exact hmem _ (Table.get?_eq_some_iff.1 he)

/-- Only the gross price names another value, and the fee is moved across both. -/
theorem order_of_root_overrides_fee : ∃ m m', priceList.accept = .ok m ∧
    ({ priceList with scenarios := feeFirst } : Definition).accept = .ok m' ∧
    ∀ v, (m.read .rootValues (m.run [.enter "grossFirst"] {})).result = .ok v ↔
      (m'.read .rootValues (m'.run [.enter "offer"] {})).result = .ok v := by
  have h : priceList.accept = .ok _ := rfl
  have h' : ({ priceList with scenarios := feeFirst } : Definition).accept = .ok _ := rfl
  obtain ⟨m', haccept', hvalues⟩ := (order_of_root_overrides h).2 _ rearranged_feeFirst
  obtain rfl := Except.ok.inj (haccept'.symm.trans h')
  have hperm : ([grossOverride, netOverride] ++ [feeOverride]).Perm
      ([feeOverride] ++ [grossOverride, netOverride]) := List.perm_append_comm
  refine ⟨_, _, h, h', hvalues [.enter "grossFirst"] [.enter "offer"] hperm ?_⟩
  intro name e he k hk
  have hmem : (name, e) ∈ [grossOverride, netOverride, feeOverride] := Table.get?_eq_some_iff.1 he
  simp only [List.mem_cons, List.not_mem_nil, or_false] at hmem
  rcases hmem with hgross | hnet | hfee
  · -- the net price is behind the gross price in both orders
    obtain ⟨rfl, rfl⟩ := Prod.mk.inj hgross
    obtain rfl : k = "net" := by simpa [Expr.Names, Expr.walk_eq, Expr.children] using hk
    have hbehind : ∀ before {t : Table Expr} {after : List (String × Expr)},
        t.entries = before ++ grossOverride :: after → "net" ∉ before.map Prod.fst →
          ¬ t.InFront "net" "gross" := fun _ _ _ hsplit hnot hfront =>
      hnot ((Table.inFront_iff hsplit).1 hfront)
    exact iff_of_false (hbehind [] rfl (by decide)) (hbehind [feeOverride] rfl (by decide))
  · obtain ⟨rfl, rfl⟩ := Prod.mk.inj hnet
    simp [Expr.Names, Expr.walk_eq, Expr.children] at hk
  · obtain ⟨rfl, rfl⟩ := Prod.mk.inj hfee
    simp [Expr.Names, Expr.walk_eq, Expr.children] at hk

/-- **The order of two overrides of the root matters.** The gross price is the net price that is
given if its override is written first, else the net price that is overridden. -/
theorem gross_before_net : ∃ m, priceList.accept = .ok m ∧
    ((m.scenario (m.active [.enter "grossFirst"])).overrides rootId).entries.Perm
      ((m.scenario (m.active [.enter "netFirst"])).overrides rootId).entries ∧
    Except.map Table.entries (m.read .rootValues (m.run [.enter "grossFirst"] {})).result =
      .ok [("net", 5.0), ("gross", 0.0), ("fee", 2.0)] ∧
    Except.map Table.entries (m.read .rootValues (m.run [.enter "netFirst"] {})).result =
      .ok [("net", 5.0), ("gross", 5.0), ("fee", 2.0)] ∧ (0.0 : Float) ≠ 5.0 := by
  have h : priceList.accept = .ok _ := rfl
  refine ⟨_, h, List.Perm.swap _ _ _, ?_, ?_, by decide +kernel⟩
  · decide +kernel
  · decide +kernel

end ValuedGraph
