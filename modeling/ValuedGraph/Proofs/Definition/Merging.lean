import ValuedGraph.Definition.Resolution
import ValuedGraph.Proofs.Definition.Imports

/-!
# Entries from several sources

A definition takes its entries from the libraries it imports, in their order, and from itself. An
entry is that of the last source that declares its name, and stands where the first one declares it.

* `Table.keys_foldl_overlay`: **overlaid tables** have the names of all, each where it is written
  first.
* `Table.get?_foldl_overlay`: a name has its value in the last of the tables that has it.
* `Table.MergedFrom`: **a table that is read from several others.**
* `PropertyDraft.implies_of_resolve`: what properties imply is read with the names of all.
* `Definition.MadeFrom`, `Definition.ofDocument_merges_sources`: **the entries of definitions.**
-/

namespace ValuedGraph

namespace Table

variable {α β ε : Type} {tables : List (Table α)} {t : Table α} {k : String} {a : α}

/-- **Overlaid tables** have the names of all, each where it is written first. -/
theorem keys_foldl_overlay (tables : List (Table α)) :
    (tables.foldl overlay ∅).keys = (tables.flatMap keys).eraseDups := by
  have hall : tables.foldl overlay ∅ = (∅ : Table α).insertAll (tables.flatMap entries) :=
    List.foldl_flatMap.symm
  rw [hall, keys_insertAll, List.map_flatMap]
  rfl

/-- **The last table that has a name,** and its value there. -/
def LastOf (tables : List (Table α)) (k : String) (a : α) : Prop :=
  ∃ before t after, tables = before ++ t :: after ∧ t.get? k = some a ∧ ∀ u ∈ after, k ∉ u

theorem lastOf_snoc :
    LastOf (tables ++ [t]) k a ↔ t.get? k = some a ∨ k ∉ t ∧ LastOf tables k a := by
  constructor
  · rintro ⟨before, u, after, hsplit, hu, hafter⟩
    rcases List.eq_nil_or_concat after with rfl | ⟨after, v, rfl⟩
    · obtain ⟨-, htu⟩ := List.append_inj' hsplit rfl
      obtain rfl : t = u := by simpa using htu
      exact Or.inl hu
    · have hsplit : tables ++ [t] = (before ++ u :: after) ++ [v] := by simpa using hsplit
      obtain ⟨htables, hv⟩ := List.append_inj' hsplit rfl
      obtain rfl : t = v := by simpa using hv
      exact Or.inr ⟨hafter t (by simp), before, u, after, htables, hu,
        fun w hw => hafter w (by simp [hw])⟩
  · rintro (h | ⟨hk, before, u, after, rfl, hu, hafter⟩)
    · exact ⟨tables, t, [], rfl, h, by simp⟩
    · refine ⟨before, u, after ++ [t], by simp, hu, fun w hw => ?_⟩
      rcases List.mem_append.1 hw with hw | hw
      · exact hafter w hw
      · rwa [List.mem_singleton.1 hw]

/-- **In overlaid tables** a name has its value in the last of them that has it. -/
theorem get?_foldl_overlay : (tables.foldl overlay ∅).get? k = some a ↔ LastOf tables k a := by
  induction tables using List.reverseRecOn with
  | nil =>
    constructor
    · intro h
      cases h
    · rintro ⟨before, t, after, h, -⟩
      simp at h
  | append_singleton tables t ih =>
    rw [List.foldl_concat, get?_overlay, Option.or_eq_some_iff, lastOf_snoc, ih, get?_eq_none_iff]

theorem mem_foldl_overlay : k ∈ tables.foldl overlay ∅ ↔ ∃ t ∈ tables, k ∈ t := by
  rw [mem_iff, keys_foldl_overlay, List.mem_eraseDups, List.mem_flatMap]
  rfl

/-- **A table that is read from several others.** It has the names of all, each where it is written
first; and an entry is read from the last table that has its name. -/
structure MergedFrom (tables : List (Table α)) (read : String → α → Except ε β) (t : Table β) :
    Prop where
  mem : ∀ k, k ∈ t ↔ ∃ u ∈ tables, k ∈ u
  last : ∀ k b, t.get? k = some b ↔ ∃ a, LastOf tables k a ∧ read k a = .ok b
  first : t.keys = (tables.flatMap keys).eraseDups

/-- **What is read from overlaid tables.** -/
theorem mergedFrom_of_traverse {f read : String → α → Except ε β} {u : Table β}
    (hread : ∀ {k a b}, f k a = .ok b → read k a = .ok b)
    (h : (tables.foldl overlay ∅).traverse f = .ok u) : MergedFrom tables read u where
  mem k := by rw [mem_of_traverse h, mem_foldl_overlay]
  last k b := by
    rw [get?_of_traverse h]
    constructor
    · rintro ⟨a, ha, hb⟩
      exact ⟨a, get?_foldl_overlay.1 ha, hread hb⟩
    · rintro ⟨a, ha, hb⟩
      -- the entry was read, and there is only one way to read it
      have hget := get?_foldl_overlay.2 ha
      obtain ⟨b', hb', -⟩ := exists_of_traverse h hget
      obtain rfl : b = b' := Except.ok.inj (hb.symm.trans (hread hb'))
      exact ⟨a, hget, hb'⟩
  first := by rw [keys_of_traverse h, keys_foldl_overlay]

/-- Overlaid tables as they are. -/
theorem mergedFrom_foldl_overlay (tables : List (Table α)) :
    MergedFrom tables (fun _ a => (.ok a : Except ε α)) (tables.foldl overlay ∅) where
  mem _ := mem_foldl_overlay
  last k b := by simp [get?_foldl_overlay]
  first := keys_foldl_overlay tables

end Table

/-- **What a property implies** is read with the names of all properties. -/
theorem PropertyDraft.implies_of_resolve {names : List String} {name : String} {d : PropertyDraft}
    {p : Property} (h : d.resolve names name = .ok p) :
    ImpliesRule.resolve name names d.implies = .ok p.implies := by
  unfold PropertyDraft.resolve at h
  dsimp only at h
  obtain ⟨-, h⟩ := ok_of_guard h
  obtain ⟨value, -, h⟩ := ok_of_bind h
  obtain ⟨combiner, -, h⟩ := ok_of_bind h
  obtain ⟨constants, -, h⟩ := ok_of_bind h
  obtain ⟨-, h⟩ := ok_of_guard h
  obtain ⟨implies, himplies, h⟩ := ok_of_bind h
  obtain ⟨display, -, h⟩ := ok_of_bind h
  obtain rfl := Except.ok.inj h
  exact himplies

/-- Exceptions are names, and all others are implied. -/
theorem ImpliesRule.of_resolve_allBut {names excluded implied : List String} {name : String}
    (h : resolve name names (some (allBut excluded)) = .ok implied) :
    (∀ k ∈ excluded, k ∈ names) ∧
      implied = names.filter fun k => k != name && !excluded.contains k := by
  dsimp only [resolve] at h
  split at h
  · rename_i hunknown
    refine ⟨fun k hk => ?_, (Except.ok.inj h).symm⟩
    have hall := List.filter_eq_nil_iff.1 hunknown k (List.mem_eraseDups.2 hk)
    simpa using hall
  · cases h

/-- Settings that are accepted are read as expressions. -/
theorem Resolved.expression_of_settings {known : List String} {path key : String} {v : Value}
    {e : Expr}
    (h : (if known.contains key then expression s!"{path}.{key}" v
      else reject (.unknownSetting path key known)) = .ok e) :
    expression (path ++ "." ++ key) v = .ok e := by
  split at h
  · exact h
  · cases h

namespace Bundle

variable {α β : Type} (kind : Bundle → Table α) (hempty : kind {} = ∅)
  (hkind : ∀ a b, kind (a.overlay b) = (kind a).overlay (kind b))
include hempty hkind

/-- Each kind of entry is overlaid on its own. -/
theorem foldl_overlay (sources : List Bundle) :
    kind (sources.foldl Bundle.overlay {}) = (sources.map kind).foldl Table.overlay ∅ := by
  rw [List.foldl_map, ← hempty]
  exact (List.foldl_hom kind fun a b => (hkind a b).symm).symm

/-- **What is read from one kind of entry** of overlaid bundles. -/
theorem mergedFrom_of_traverse {sources : List Bundle} {f read : String → α → Resolved β}
    {t : Table β} (hread : ∀ {k a b}, f k a = .ok b → read k a = .ok b)
    (h : (kind (sources.foldl Bundle.overlay {})).traverse f = .ok t) :
    Table.MergedFrom (sources.map kind) read t := by
  rw [foldl_overlay kind hempty hkind] at h
  exact Table.mergedFrom_of_traverse hread h

end Bundle

/-- Names that are all known have their libraries, one by one. -/
theorem Libraries.forall₂_filterMap {libraries : Libraries} {names : List String}
    (h : ∀ name ∈ names, name ∈ libraries) :
    List.Forall₂ (fun name library => libraries.get? name = some library) names
      (names.filterMap libraries.get?) := by
  induction names with
  | nil => exact .nil
  | cons name names ih =>
    obtain ⟨library, hlibrary⟩ := Table.exists_get? (h name (by simp))
    rw [List.filterMap_cons_some hlibrary]
    exact .cons hlibrary (ih fun n hn => h n (by simp [hn]))

namespace Definition

/-- **What a definition is made of:** each kind of entry is read from all sources, properties with
the names of all of them. -/
structure MadeFrom (sources : List Bundle) (definition : Definition) : Prop where
  properties : Table.MergedFrom (sources.map Bundle.properties)
    (PropertyDraft.resolve definition.properties.keys) definition.properties
  root : Table.MergedFrom (sources.map Bundle.root)
    (fun k => Resolved.number ("root" ++ "." ++ k)) definition.root
  tags : Table.MergedFrom (sources.map Bundle.tags)
    (fun _ tag => (.ok tag : Resolved Tag)) definition.tags
  displayNode : Table.MergedFrom (sources.map fun b => b.display.node)
    (fun k => Resolved.expression ("display.node" ++ "." ++ k)) definition.display.node
  displayEdge : Table.MergedFrom (sources.map fun b => b.display.edge)
    (fun k => Resolved.expression ("display.edge" ++ "." ++ k)) definition.display.edge
  displayEdgeCombiner : Table.MergedFrom (sources.map fun b => b.display.edgeCombiner)
    (fun k => Resolved.expression ("display.edgeCombiner" ++ "." ++ k))
    definition.display.edgeCombiner

variable {libraries : Libraries} {v : Value} {definition : Definition}

/-- A definition is that of a draft. -/
theorem exists_draft_of_ok (h : ofDocument libraries v = .ok definition) :
    ∃ d, Draft.check v = .valid d ∧ d.resolve libraries = .ok definition := by
  unfold ofDocument at h
  split at h
  · cases h
  · split at h
    · rename_i d hcheck
      exact ⟨d, hcheck, ok_of_mapError h⟩
    · cases h

/-- **The definition of a draft** is made of its libraries and of itself. -/
theorem madeFrom_of_resolve {d : Draft} (h : d.resolve libraries = .ok definition) :
    libraries.importOrder d.imports = .ok definition.libraries ∧
      definition.MadeFrom ((definition.libraries.filterMap libraries.get?).map Library.bundle ++
        [d.bundle]) := by
  unfold Draft.resolve at h
  obtain ⟨names, hnames, h⟩ := ok_of_bind h
  dsimp only [mergeBundles] at h
  generalize hsources : (names.filterMap libraries.get?).map Library.bundle ++ [d.bundle] = sources
    at h
  obtain ⟨properties, hproperties, h⟩ := ok_of_bind h
  obtain ⟨nodes, -, h⟩ := ok_of_bind h
  obtain ⟨display, hdisplay, h⟩ := ok_of_bind h
  obtain ⟨scenarios, -, h⟩ := ok_of_bind h
  obtain ⟨root, hroot, h⟩ := ok_of_bind h
  obtain rfl := Except.ok.inj h
  obtain ⟨node, hnode, hdisplay⟩ := ok_of_bind hdisplay
  obtain ⟨edge, hedge, hdisplay⟩ := ok_of_bind hdisplay
  obtain ⟨edgeCombiner, hedgeCombiner, hdisplay⟩ := ok_of_bind hdisplay
  obtain rfl := Except.ok.inj hdisplay
  refine ⟨ok_of_mapError hnames, ?_⟩
  dsimp only
  rw [hsources]
  -- properties are read with the names of the merged ones, which they keep
  rw [← Table.keys_of_traverse hproperties] at hproperties
  exact {
    properties := Bundle.mergedFrom_of_traverse _ rfl (fun _ _ => rfl) id hproperties
    root := Bundle.mergedFrom_of_traverse _ rfl (fun _ _ => rfl) id hroot
    tags := by
      rw [Bundle.foldl_overlay Bundle.tags rfl fun _ _ => rfl]
      exact Table.mergedFrom_foldl_overlay _
    displayNode := Bundle.mergedFrom_of_traverse (fun b => b.display.node) rfl (fun _ _ => rfl)
      Resolved.expression_of_settings hnode
    displayEdge := Bundle.mergedFrom_of_traverse (fun b => b.display.edge) rfl (fun _ _ => rfl)
      Resolved.expression_of_settings hedge
    displayEdgeCombiner := Bundle.mergedFrom_of_traverse (fun b => b.display.edgeCombiner) rfl
      (fun _ _ => rfl) Resolved.expression_of_settings hedgeCombiner }

/-- **What a property implies depends on all sources:** a wildcard and exceptions are among the
names of all of them. -/
theorem MadeFrom.implies {sources : List Bundle} (h : definition.MadeFrom sources) {k : String}
    {a : PropertyDraft} (ha : Table.LastOf (sources.map Bundle.properties) k a) {p : Property}
    (hp : definition.properties.get? k = some p) :
    (a.implies = some .everything → p.implies = definition.properties.keys.filter (· != k)) ∧
      ∀ excluded, a.implies = some (.allBut excluded) →
        (∀ n ∈ excluded, n ∈ definition.properties) ∧
        p.implies = definition.properties.keys.filter fun n => n != k && !excluded.contains n := by
  obtain ⟨a', ha', hresolve⟩ := (h.properties.last k p).1 hp
  obtain rfl : a = a' := Option.some.inj
    ((Table.get?_foldl_overlay.2 ha).symm.trans (Table.get?_foldl_overlay.2 ha'))
  have himplies := PropertyDraft.implies_of_resolve hresolve
  constructor
  · intro hrule
    rw [hrule] at himplies
    exact (Except.ok.inj himplies).symm
  · intro excluded hrule
    rw [hrule] at himplies
    exact ImpliesRule.of_resolve_allBut himplies

/-- **The entries of definitions** come from the libraries that are reached, each once and in their
order, and from the definition itself. There is an entry under a name if a source declares it; it is
that of the last such source, taken whole; and it stands where the first one declares it. What
properties imply is read with the names of all properties. -/
theorem ofDocument_merges_sources (h : ofDocument libraries v = .ok definition) :
    ∃ d imported, Draft.check v = .valid d ∧
      libraries.importOrder d.imports = .ok definition.libraries ∧
      definition.libraries.Nodup ∧
      (∀ x, x ∈ definition.libraries ↔ libraries.Reaches d.imports x) ∧
      List.Forall₂ (fun name library => libraries.get? name = some library)
        definition.libraries imported ∧
      definition.MadeFrom (imported.map Library.bundle ++ [d.bundle]) ∧
      ∀ k a p,
        Table.LastOf ((imported.map Library.bundle ++ [d.bundle]).map Bundle.properties) k a →
        definition.properties.get? k = some p →
        (a.implies = some .everything → p.implies = definition.properties.keys.filter (· != k)) ∧
        ∀ excluded, a.implies = some (.allBut excluded) →
          (∀ n ∈ excluded, n ∈ definition.properties) ∧
          p.implies = definition.properties.keys.filter fun n =>
            n != k && !excluded.contains n := by
  obtain ⟨d, hcheck, hresolve⟩ := exists_draft_of_ok h
  obtain ⟨horder, hmade⟩ := madeFrom_of_resolve hresolve
  have hreached := Libraries.exists_importOrder_iff.1 ⟨_, horder⟩
  have hmem (x : String) := Libraries.mem_importOrder (x := x) horder
  have hnodup := (Libraries.extended_importOrder horder).ok.nodup
  refine ⟨d, _, hcheck, horder, hnodup, hmem, ?_, hmade, ?_⟩
  · exact Libraries.forall₂_filterMap fun name hname => (hreached name ((hmem name).1 hname)).1
  · exact fun k a p ha hp => hmade.implies ha hp

/-- A property of a library with the same value on all nodes. -/
def steady (value : Int) (rule : Option ImpliesRule) : PropertyDraft where
  value := .int value
  description := ""
  displayName := ""
  usage := ""
  combine := none
  dependencies := none
  implies := rule
  constants := ∅
  hide := false
  calculateWhen := .edges
  extendTags := false
  display := ∅

/-- Rivers and rain, which both come from water. Rain has its own depth. -/
def shores : Libraries := .ofList [
  (Libraries.coreName, Libraries.core),
  ("water", {
    description := "", imports := []
    bundle := {
      properties := .ofList [("flow", steady 1 (some .everything)), ("depth", steady 2 none)]
      root := .ofList [("flow", .int 1)] } }),
  ("river", {
    description := "", imports := ["water"]
    bundle := { properties := .ofList [("silt", steady 3 none)] } }),
  ("rain", {
    description := "", imports := ["water"]
    bundle := {
      properties := .ofList [("depth", steady 4 (some (.allBut ["silt"])))]
      display := { node := .ofList [("radius", .int 9)] } } })]

/-- An estuary with a river, rain, and a property of its own. -/
def estuary : Value := .object [
  ("version", .int 1), ("library", .list [.text "river", .text "rain"]),
  ("properties", .object [("salt", .object [("value", .int 5)])]), ("nodes", .object [])]

/-- The estuary has the depth of rain at the place of that of water, and salt is among what others
imply. -/
theorem ofDocument_merges_sources_estuary :
    ∃ definition, ofDocument shores estuary = .ok definition ∧
      definition.libraries = ["core", "water", "river", "rain"] ∧
      definition.properties.keys = ["flow", "depth", "silt", "salt"] ∧
      (∃ p, definition.properties.get? "flow" = some p ∧
        p.implies = ["depth", "silt", "salt"]) ∧
      (∃ p, definition.properties.get? "depth" = some p ∧ p.implies = ["flow", "salt"]) ∧
      ∃ d, ∃ imported : List Library, Draft.check estuary = .valid d ∧
        definition.MadeFrom (imported.map Library.bundle ++ [d.bundle]) := by
  refine ⟨_, rfl, rfl, rfl, ⟨_, rfl, rfl⟩, ⟨_, rfl, rfl⟩, ?_⟩
  obtain ⟨d, imported, hcheck, -, -, -, -, hmade, -⟩ :=
    @ofDocument_merges_sources shores estuary _ rfl
  exact ⟨d, imported, hcheck, hmade⟩

end Definition

end ValuedGraph
