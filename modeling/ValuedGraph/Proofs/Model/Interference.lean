import ValuedGraph.Proofs.Model.Correspondence
import ValuedGraph.Proofs.Model.Failures

/-!
# Interference

One property is computed in another way. The order in which properties are computed may change
all over, but values can only change for the property itself and for those that read it, directly
or not.

* `Definition.recompute`: a definition in which one property is computed in another way.
* `Definition.Reads`: which properties the value of a property is computed from.
* `reads_of_others_agree`: **the values of properties that do not read it** are the same.
-/

namespace ValuedGraph

open Relation

/-- **A definition in which one property is computed in another way.** -/
def Definition.recompute (d : Definition) (name : String) (p : Property) (value : Expr)
    (combiner : Combiner) (calculateWhen : CalculateWhen) (dependencies : List String) : Definition :=
  { d with
    properties := d.properties.insert name { p with value, combiner, calculateWhen, dependencies } }

/-- **A property reads another one** if its expression, or an override of it in the scenario, names
the other one in a reference to a ref, to the root or to a result. -/
inductive Definition.Reads (d : Definition) (σ : Scenario) (r k : String) : Prop where
  | value {p : Property} (hp : d.properties.get? r = some p) (hk : p.value.Names k)
  | override {id : String} {e : Expr} (he : (σ.overrides id).get? r = some e) (hk : e.Names k)

variable {m m' : Model}

/-- The models before and after a property is recomputed correspond on all nodes, and on the
properties that do not read it. -/
theorem Model.Accepted.correspond_recompute {name : String} {p : Property} (hm : m.Accepted)
    (hm' : m'.Accepted) (hp : m.definition.properties.get? name = some p) {value : Expr}
    {combiner : Combiner} {calculateWhen : CalculateWhen} {dependencies : List String}
    (hd : m'.definition =
      m.definition.recompute name p value combiner calculateWhen dependencies) (s : String) :
    m.Correspond m' (m.scenario s) (m'.scenario s) (fun _ => True)
      fun q => ¬ ReflTransGen (m.definition.Reads (m.scenario s)) q name := by
  have hscenario : m'.scenario s = m.scenario s := by rw [Model.scenario, hd]; rfl
  rw [hscenario]
  exact
    { alike :=
        { left := hm
          right := hm'
          nodes := fun id _ => by rw [hd]; rfl
          refs := fun _ _ _ _ => trivial
          flow := fun q => by
            rw [hd, Definition.recompute, Table.get?_insert]
            split
            · rename_i hq
              rw [hq, hp]
              rfl
            · rfl }
      agree :=
        { properties := fun q hq => by
            have hne : q ≠ name := fun he => hq (he ▸ .refl)
            rw [hd, Definition.recompute, Table.get?_insert_of_ne _ _ hne]
          tagConstants := by rw [Model.tagConstants, Model.tagConstants, hd]; rfl
          closed := fun q p hq hp k hk hpath => hq (.head (.value hp hk) hpath) }
      given := by rw [hd]; rfl
      root := .refl _
      overrides := fun _ _ _ _ => rfl
      closed := fun _ _ q e hq he k hk hpath => hq (.head (.override he hk) hpath) }

/-- **Properties do not interfere.** Two accepted definitions only differ in how one property is
computed: in its expression, its combiner, when it is calculated and what it depends on. Another
property does not read it under the active scenario, directly or not. Then after any runs, the
other property has the same value in both models at every node that can be read in both, and at
the root. -/
theorem reads_of_others_agree {d : Definition} {p : Property} {value : Expr} {combiner : Combiner}
    {calculateWhen : CalculateWhen} {dependencies : List String} {name : String}
    (h : d.accept = .ok m)
    (h' : (d.recompute name p value combiner calculateWhen dependencies).accept = .ok m')
    (hp : d.properties.get? name = some p) (ops ops' : List Operation)
    (hactive : m.active ops = m'.active ops') {q : String} (hne : q ≠ name)
    (hq : ¬ TransGen (d.Reads (m.scenario (m.active ops))) q name) :
    let μ := m.run ops {}
    let μ' := m'.run ops' {}
    (∀ id v v', (m.read (.values id) μ).result = .ok v → (m'.read (.values id) μ').result = .ok v' →
      v.get? q = v'.get? q) ∧
    (∀ v v', (m.read .rootValues μ).result = .ok v → (m'.read .rootValues μ').result = .ok v' →
      v.get? q = v'.get? q) := by
  intro μ μ'
  obtain ⟨hm, rfl⟩ := accepted_of_accept h
  obtain ⟨hm', hd⟩ := accepted_of_accept h'
  have hcorr := hm.correspond_recompute hm' hp hd (m.active ops)
  have hself : ¬ ReflTransGen (m.definition.Reads (m.scenario (m.active ops))) q name := by
    rw [reflTransGen_iff_eq_or_transGen]
    rintro (he | hpath)
    · exact hne he.symm
    · exact hq hpath
  constructor
  · intro id v v' hv hv'
    obtain ⟨hid, hv⟩ := read_values_ok hm hv
    obtain ⟨-, hv'⟩ := read_values_ok hm' hv'
    rw [← hactive] at hv'
    exact hcorr.valuesOf_agreeOn (hid.imp_right fun hid => ⟨hid, trivial⟩) hv hv' q hself
  · intro v v' hv hv'
    have hroot := (read_rootValues_run hm ops).symm.trans hv
    have hroot' := (read_rootValues_run hm' ops').symm.trans hv'
    rw [← hactive] at hroot'
    exact hcorr.rootOf_agreeOn hroot hroot' q hself

/-- What flows in the river is only computed from what flows. -/
theorem reads_flow_river (h : m.definition = river) {k : String}
    (hk : TransGen (river.Reads (m.scenario "drought")) "flow" k) : k = "flow" := by
  have hstep : ∀ {k}, river.Reads (m.scenario "drought") "flow" k → k = "flow" := by
    intro k hk
    cases hk with
    | value hp hk =>
      obtain rfl := Option.some.inj hp
      rcases hk with hk | hk | hk <;> simpa using List.mem_singleton.1 hk
    | override he hk =>
      -- the only override names nothing
      obtain rfl := override_river h he
      rcases hk with hk | hk | hk <;> simp [Expr.walk_eq, Expr.children] at hk
  induction hk with
  | single hk => exact hstep hk
  | tail _ hk ih => exact hstep (ih ▸ hk)

/-- The river, with a depth that is given. What flows is the same, though it is now computed after
the depth. -/
theorem reads_of_others_agree_river : ∃ p m m', river.properties.get? "depth" = some p ∧
    river.accept = .ok m ∧
    (river.recompute "depth" p (.literal [3.0]) .max .always []).accept = .ok m' ∧
    let μ := m.run [.enter "drought"] {}
    let μ' := m'.run [.read .summary, .enter "drought"] {}
    (∀ id v v', (m.read (.values id) μ).result = .ok v → (m'.read (.values id) μ').result = .ok v' →
      v.get? "flow" = v'.get? "flow") ∧
    (∀ v v', (m.read .rootValues μ).result = .ok v → (m'.read .rootValues μ').result = .ok v' →
      v.get? "flow" = v'.get? "flow") := by
  have h : river.accept = .ok _ := rfl
  have hp : river.properties.get? "depth" = some
      { name := "depth", value := .resultValue "flow", dependencies := ["flow"]
        calculateWhen := .always } := rfl
  have h' : (river.recompute "depth"
      { name := "depth", value := .resultValue "flow", dependencies := ["flow"]
        calculateWhen := .always } (.literal [3.0]) .max .always []).accept = .ok _ := rfl
  exact ⟨_, _, _, hp, h, h', reads_of_others_agree h h' hp [.enter "drought"]
    [.read .summary, .enter "drought"] rfl (by decide) fun hpath =>
      absurd (reads_flow_river rfl hpath) (by decide)⟩

end ValuedGraph
