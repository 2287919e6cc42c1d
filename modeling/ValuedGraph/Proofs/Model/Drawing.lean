import Mathlib.Data.List.Forall2
import ValuedGraph.Model.Drawing
import ValuedGraph.Proofs.Expr.Slots
import ValuedGraph.Proofs.Expr.Validity
import ValuedGraph.Proofs.Model.Edges

/-!
# How edges are drawn

What becomes of the edges of a node when they are drawn: they are split into entries, one for each
edge or one for all edges of a group; entries that are not distinct are merged ref by ref; and what
has a width gets a place next to the others. No edge is lost on the way but those of entries without
a width, and none is drawn twice.

* `EdgeGroup.OneOrEach`: display settings with one number, or with one for each edge.
* `EdgeGroup.Splits`, `EdgeGroup.entries_ok`: **the entries of a group.**
* `Merges`, `mergeEntries_ok`: entries drawn as one.
* `DrawsTo`, `drawToRef_ok`: **the edges drawn to one ref.**
* `drawGroups_loses_nothing`: **the edges drawn for any groups,** ref by ref.
* `Model.drawnEdges_eq`: the edges of a node are drawn in this way.
-/

namespace ValuedGraph

variable {display : Table Expr} {s : Surroundings} {name : String} {absent x : Float}
  {failure : EvalFailure}

/-! ## Display settings -/

/-- The array of a setting is not empty. -/
theorem settingArray_ok {xs : List Float} :
    (settingArray display s name absent).result = .ok xs ↔
      (display.get? name = none ∧ xs = [absent]) ∨
        ∃ e, display.get? name = some e ∧ (e.evaluate s).result = .ok xs := by
  unfold settingArray
  cases display.get? name with
  | none => simp [eq_comm]
  | some e => simp

theorem settingArray_error :
    (settingArray display s name absent).result = .error failure ↔
      ∃ e, display.get? name = some e ∧ (e.evaluate s).result = .error failure := by
  unfold settingArray
  cases display.get? name <;> simp

theorem settingArray_ne_nil {xs : List Float}
    (h : (settingArray display s name absent).result = .ok xs) : xs ≠ [] := by
  obtain ⟨-, rfl⟩ | ⟨e, -, he⟩ := settingArray_ok.1 h
  · simp
  · exact Expr.evaluate_ne_nil he

/-- **The number of a setting that has one for all:** the first one of its expression, or the
fallback if it has none. -/
def FirstNumber (display : Table Expr) (s : Surroundings) (name : String) (absent x : Float) : Prop :=
  (display.get? name = none ∧ x = absent) ∨
    ∃ e rest, display.get? name = some e ∧ (e.evaluate s).result = .ok (x :: rest)

theorem settingNumber_ok :
    (settingNumber display s name absent).result = .ok x ↔ FirstNumber display s name absent x := by
  have hfirst : (settingNumber display s name absent).result = .ok x ↔
      ∃ rest, (settingArray display s name absent).result = .ok (x :: rest) := by
    unfold settingNumber
    rw [Traced.result_bind_ok]
    constructor
    · rintro ⟨xs, hxs, hx⟩
      obtain ⟨y, rest, rfl⟩ := List.exists_cons_of_ne_nil (settingArray_ne_nil hxs)
      obtain rfl : y = x := Except.ok.inj hx
      exact ⟨rest, hxs⟩
    · rintro ⟨rest, hrest⟩
      exact ⟨_, hrest, rfl⟩
  simp only [hfirst, settingArray_ok, FirstNumber]
  constructor
  · rintro ⟨rest, ⟨hnone, hx⟩ | ⟨e, he, hx⟩⟩
    · exact Or.inl ⟨hnone, (List.cons.inj hx).1⟩
    · exact Or.inr ⟨e, rest, he, hx⟩
  · rintro (⟨hnone, rfl⟩ | ⟨e, rest, he, hx⟩)
    · exact ⟨[], Or.inl ⟨hnone, rfl⟩⟩
    · exact ⟨rest, Or.inr ⟨e, he, hx⟩⟩

theorem settingNumber_error :
    (settingNumber display s name absent).result = .error failure ↔
      ∃ e, display.get? name = some e ∧ (e.evaluate s).result = .error failure := by
  have harray : (settingNumber display s name absent).result = .error failure ↔
      (settingArray display s name absent).result = .error failure := by
    unfold settingNumber
    rw [Traced.result_bind_error]
    refine or_iff_left ?_
    rintro ⟨xs, -, hpure⟩
    cases hpure
  exact harray.trans settingArray_error

/-! ## Entries of groups -/

namespace EdgeGroup

variable {g : EdgeGroup} {entries entries' : List (DrawEntry × Bool)}

/-- **Display settings with one number, or with one for each edge** of the group. -/
def OneOrEach (g : EdgeGroup) : Prop :=
  ∀ name ∈ edgeSettings, ∀ e, g.display.get? name = some e →
    ∀ xs, (e.evaluate g.surroundings).result = .ok xs → xs.length = 1 ∨ xs.length = g.edges.length

instance : Decidable g.OneOrEach :=
  decidable_of_iff (∀ name ∈ edgeSettings, ∀ e ∈ (g.display.get? name).toList,
      ∀ xs ∈ (e.evaluate g.surroundings).result.toOption.toList,
        xs.length = 1 ∨ xs.length = g.edges.length) <| by
    have hok (r : Except EvalFailure (List Float)) (xs : List Float) :
        r.toOption = some xs ↔ r = .ok xs := by
      cases r <;> simp [Except.toOption]
    simp only [OneOrEach, Option.mem_toList, hok]

theorem OneOrEach.length (h : g.OneOrEach) (hname : name ∈ edgeSettings) {xs : List Float}
    (hxs : (settingArray g.display g.surroundings name absent).result = .ok xs) :
    xs.length = 1 ∨ xs.length = g.edges.length := by
  obtain ⟨-, rfl⟩ | ⟨e, he, hxs⟩ := settingArray_ok.1 hxs
  · exact Or.inl rfl
  · exact h name hname e he xs hxs

/-- **The arrays of the settings of a group.** -/
structure Arrays (g : EdgeGroup) (widths colors opacities distincts : List Float) : Prop where
  width : (settingArray g.display g.surroundings "width" 1.0).result = .ok widths
  color : (settingArray g.display g.surroundings "color" packedBlack).result = .ok colors
  opacity : (settingArray g.display g.surroundings "opacity" 1.0).result = .ok opacities
  distinct : (settingArray g.display g.surroundings "distinct" 0.0).result = .ok distincts

/-- **The entries that a group is split into:** as many as the longest array of a setting has
numbers, each with the numbers at its position; together one entry for all edges, or one entry for
each edge. -/
structure Splits (g : EdgeGroup) (entries : List (DrawEntry × Bool)) : Prop where
  numbers : ∃ widths colors opacities distincts : List Float,
    g.Arrays widths colors opacities distincts ∧
      entries.map (fun e => (e.1.width, e.1.color, e.1.opacity, e.2)) =
        (List.range (max (max widths.length colors.length)
          (max opacities.length distincts.length))).map fun i =>
          (slot widths i, slot colors i, slot opacities i, isTrue (slot distincts i))
  edges : entries.map (fun e => e.1.edges) = [g.edges] ∨
    entries.map (fun e => e.1.edges) = g.edges.map fun e => [e]

/-- **Every edge is in one entry,** in the order of the edges. -/
theorem Splits.flatMap_edges (h : g.Splits entries) :
    entries.flatMap (fun e => e.1.edges) = g.edges := by
  rw [List.flatMap_def]
  obtain hone | heach := h.edges
  · rw [hone]
    simp
  · rw [heach, ← List.flatMap_def]
    simp

theorem Arrays.unique {w c o d w' c' o' d' : List Float} (h : g.Arrays w c o d)
    (h' : g.Arrays w' c' o' d') : w = w' ∧ c = c' ∧ o = o' ∧ d = d' :=
  ⟨Except.ok.inj (h.width.symm.trans h'.width), Except.ok.inj (h.color.symm.trans h'.color),
    Except.ok.inj (h.opacity.symm.trans h'.opacity),
    Except.ok.inj (h.distinct.symm.trans h'.distinct)⟩

/-- The numbers of an entry and its edges are all there is to it. -/
theorem entries_ext
    (hnumbers : entries.map (fun e => (e.1.width, e.1.color, e.1.opacity, e.2)) =
      entries'.map fun e => (e.1.width, e.1.color, e.1.opacity, e.2))
    (hedges : entries.map (fun e => e.1.edges) = entries'.map fun e => e.1.edges) :
    entries = entries' := by
  induction entries generalizing entries' with
  | nil =>
    cases entries' with
    | nil => rfl
    | cons e rest => cases hnumbers
  | cons e entries ih =>
    cases entries' with
    | nil => cases hnumbers
    | cons e' entries' =>
      obtain ⟨⟨w, c, o, es⟩, d⟩ := e
      obtain ⟨⟨w', c', o', es'⟩, d'⟩ := e'
      simp only [List.map_cons, List.cons.injEq, Prod.mk.injEq] at hnumbers hedges
      obtain ⟨⟨rfl, rfl, rfl, rfl⟩, hnumbers⟩ := hnumbers
      obtain ⟨rfl, hedges⟩ := hedges
      rw [ih hnumbers hedges]

/-- **A group is split in one way.** -/
theorem Splits.unique (h : g.Splits entries) (h' : g.Splits entries') : entries = entries' := by
  have hnumbers : entries.map (fun e => (e.1.width, e.1.color, e.1.opacity, e.2)) =
      entries'.map fun e => (e.1.width, e.1.color, e.1.opacity, e.2) := by
    obtain ⟨w, c, o, d, harrays, heq⟩ := h.numbers
    obtain ⟨w', c', o', d', harrays', heq'⟩ := h'.numbers
    obtain ⟨rfl, rfl, rfl, rfl⟩ := harrays.unique harrays'
    rw [heq, heq']
  refine entries_ext hnumbers ?_
  have hlength : entries.length = entries'.length := by
    simpa using congrArg List.length hnumbers
  -- one entry for all edges is one entry for each of them if there is one edge
  have hsame (l l' : List (DrawEntry × Bool)) (hl : l.length = l'.length)
      (hone : l.map (fun e => e.1.edges) = [g.edges])
      (heach : l'.map (fun e => e.1.edges) = g.edges.map fun e => [e]) :
      l.map (fun e => e.1.edges) = l'.map fun e => e.1.edges := by
    have hcount : g.edges.length = 1 := by
      have h1 := congrArg List.length hone
      have h2 := congrArg List.length heach
      simp only [List.length_map, List.length_singleton] at h1 h2
      omega
    obtain ⟨e, he⟩ := List.length_eq_one_iff.1 hcount
    rw [hone, heach, he]
    rfl
  obtain hone | heach := h.edges
  · obtain hone' | heach' := h'.edges
    · rw [hone, hone']
    · exact hsame _ _ hlength hone heach'
  · obtain hone' | heach' := h'.edges
    · exact (hsame _ _ hlength.symm hone' heach).symm
    · rw [heach, heach']

theorem entries_eq {w c o d : List Float} (h : g.Arrays w c o d) :
    g.entries.result = .ok ((List.range (max (max w.length c.length)
      (max o.length d.length))).map fun i =>
        ({ width := slot w i, color := slot c i, opacity := slot o i
           edges := if max (max w.length c.length) (max o.length d.length) == g.edges.length then
             g.edges[i]?.toList else g.edges },
         isTrue (slot d i))) := by
  unfold entries
  simp only [Traced.result_bind, h.width, h.color, h.opacity, h.distinct, Except.bind]
  rfl

theorem exists_arrays (h : g.entries.result = .ok entries) : ∃ w c o d, g.Arrays w c o d := by
  obtain ⟨w, hw, h⟩ := Traced.result_bind_ok.1 h
  obtain ⟨c, hc, h⟩ := Traced.result_bind_ok.1 h
  obtain ⟨o, ho, h⟩ := Traced.result_bind_ok.1 h
  obtain ⟨d, hd, -⟩ := Traced.result_bind_ok.1 h
  exact ⟨w, c, o, d, hw, hc, ho, hd⟩

/-- **The edges of the entries:** one each, if there are as many entries as edges, and all of them in
every entry otherwise. -/
theorem edges_of_entries (hentries : g.entries.result = .ok entries) :
    (entries.length = g.edges.length ∧
      entries.map (fun e => e.1.edges) = g.edges.map fun e => [e]) ∨
    (entries.length ≠ g.edges.length ∧ ∀ e ∈ entries, e.1.edges = g.edges) := by
  obtain ⟨w, c, o, d, ha⟩ := exists_arrays hentries
  obtain rfl := Except.ok.inj ((entries_eq ha).symm.trans hentries)
  generalize max (max w.length c.length) (max o.length d.length) = count
  rw [List.length_map, List.length_range]
  by_cases hper : count = g.edges.length
  · refine Or.inl ⟨hper, List.ext_getElem (by simp [hper]) fun i hi _ => ?_⟩
    have hi : i < g.edges.length := by simpa [hper] using hi
    simp [hper, hi]
  · refine Or.inr ⟨hper, fun e he => ?_⟩
    obtain ⟨i, -, rfl⟩ := List.mem_map.1 he
    simp [hper]

/-- The entries that the settings give, as long as each has one number or as many as there are
edges. -/
theorem splits_of_arrays (h : g.OneOrEach) {w c o d : List Float} (ha : g.Arrays w c o d)
    (hentries : g.entries.result = .ok entries) : g.Splits entries := by
  have hw := h.length (by decide) ha.width
  have hc := h.length (by decide) ha.color
  have ho := h.length (by decide) ha.opacity
  have hd := h.length (by decide) ha.distinct
  have heq := Except.ok.inj ((entries_eq ha).symm.trans hentries)
  refine ⟨⟨w, c, o, d, ha, ?_⟩, ?_⟩
  · rw [← heq, List.map_map]
    rfl
  · obtain ⟨-, heach⟩ | ⟨hper, hall⟩ := edges_of_entries hentries
    · exact Or.inr heach
    · -- arrays of one number and of one for each edge leave only one other length
      have hlength : entries.length = 1 := by
        rw [← heq, List.length_map, List.length_range] at hper ⊢
        omega
      obtain ⟨e, rfl⟩ := List.length_eq_one_iff.1 hlength
      exact Or.inl (by rw [List.map_singleton, hall e List.mem_cons_self])

/-- **The entries of a group** are those that it is split into. -/
theorem entries_ok (h : g.OneOrEach) : g.entries.result = .ok entries ↔ g.Splits entries := by
  constructor
  · intro hentries
    obtain ⟨w, c, o, d, ha⟩ := exists_arrays hentries
    exact splits_of_arrays h ha hentries
  · intro hsplits
    obtain ⟨w, c, o, d, ha, -⟩ := hsplits.numbers
    have hentries := entries_eq ha
    rw [hentries, hsplits.unique (splits_of_arrays h ha hentries)]

/-- A group has no entries if a setting of its edges has no array. -/
theorem exists_of_entries_error (h : g.entries.result = .error failure) :
    ∃ name ∈ edgeSettings, ∃ e, g.display.get? name = some e ∧
      (e.evaluate g.surroundings).result = .error failure := by
  have hsetting (name : String) (hname : name ∈ edgeSettings) (absent : Float)
      (hfail : (settingArray g.display g.surroundings name absent).result = .error failure) :
      ∃ name ∈ edgeSettings, ∃ e, g.display.get? name = some e ∧
        (e.evaluate g.surroundings).result = .error failure :=
    ⟨name, hname, settingArray_error.1 hfail⟩
  rcases Traced.result_bind_error.1 h with hw | ⟨_, -, h⟩
  · exact hsetting "width" (by decide) _ hw
  rcases Traced.result_bind_error.1 h with hc | ⟨_, -, h⟩
  · exact hsetting "color" (by decide) _ hc
  rcases Traced.result_bind_error.1 h with ho | ⟨_, -, h⟩
  · exact hsetting "opacity" (by decide) _ ho
  rcases Traced.result_bind_error.1 h with hd | ⟨_, -, h⟩
  · exact hsetting "distinct" (by decide) _ hd
  · cases h

end EdgeGroup

/-! ## Entries drawn as one -/

/-- **Entries drawn as one:** each number is the first one of its setting, whose input is the
numbers of the entries in their order, and the edges are those of the entries. -/
structure Merges (display : Table Expr) (s : Surroundings) (entries : List DrawEntry)
    (merged : DrawEntry) : Prop where
  width : FirstNumber display { s with input := some (entries.map DrawEntry.width) } "width" 1.0
    merged.width
  color : FirstNumber display { s with input := some (entries.map DrawEntry.color) } "color"
    packedBlack merged.color
  opacity : FirstNumber display { s with input := some (entries.map DrawEntry.opacity) } "opacity"
    1.0 merged.opacity
  edges : merged.edges = entries.flatMap DrawEntry.edges

theorem mergeEntries_ok {entries : List DrawEntry} {merged : DrawEntry} :
    (mergeEntries display s entries).result = .ok merged ↔ Merges display s entries merged := by
  unfold mergeEntries
  simp only [Traced.result_bind_ok, settingNumber_ok]
  constructor
  · rintro ⟨w, hw, c, hc, o, ho, hmerged⟩
    obtain rfl := Except.ok.inj hmerged
    exact ⟨hw, hc, ho, rfl⟩
  · rintro ⟨hw, hc, ho, hedges⟩
    refine ⟨_, hw, _, hc, _, ho, ?_⟩
    rw [← hedges]
    rfl

/-- **Where entries cannot be drawn as one,** a setting of merged edges has no value for their
numbers. -/
def MergeFails (display : Table Expr) (s : Surroundings) (entries : List DrawEntry)
    (failure : EvalFailure) : Prop :=
  ∃ setting ∈ [("width", DrawEntry.width), ("color", DrawEntry.color), ("opacity", DrawEntry.opacity)],
    ∃ e, display.get? setting.1 = some e ∧
      (e.evaluate { s with input := some (entries.map setting.2) }).result = .error failure

theorem mergeFails_of_error {entries : List DrawEntry}
    (h : (mergeEntries display s entries).result = .error failure) :
    MergeFails display s entries failure := by
  rcases Traced.result_bind_error.1 h with hw | ⟨_, -, h⟩
  · exact ⟨("width", DrawEntry.width), by simp, settingNumber_error.1 hw⟩
  rcases Traced.result_bind_error.1 h with hc | ⟨_, -, h⟩
  · exact ⟨("color", DrawEntry.color), by simp, settingNumber_error.1 hc⟩
  rcases Traced.result_bind_error.1 h with ho | ⟨_, -, h⟩
  · exact ⟨("opacity", DrawEntry.opacity), by simp, settingNumber_error.1 ho⟩
  · cases h

/-! ## The edges to one ref -/

/-- The entries that are drawn by themselves, in their order. -/
def distinctEntries (entries : List (DrawEntry × Bool)) : List DrawEntry :=
  (entries.filter fun e => e.2).map Prod.fst

/-- The entries that are drawn as one, in their order. -/
def looseEntries (entries : List (DrawEntry × Bool)) : List DrawEntry :=
  (entries.filter fun e => !e.2).map Prod.fst

/-- **The entries of several groups,** one group after the other. -/
def SplitAll (groups : List EdgeGroup) (entries : List (DrawEntry × Bool)) : Prop :=
  ∃ parts, List.Forall₂ EdgeGroup.Splits groups parts ∧ entries = parts.flatten

/-- **One edge for all loose entries,** if there are any. -/
def MergesLoose (display : Table Expr) (s : Surroundings) (loose merged : List DrawEntry) : Prop :=
  (loose = [] ∧ merged = []) ∨ (loose ≠ [] ∧ ∃ one, merged = [one] ∧ Merges display s loose one)

/-- What is drawn of an edge, besides its ends and its place. -/
def DrawnEdge.entry (d : DrawnEdge) : DrawEntry :=
  { width := d.width, color := d.color, opacity := d.opacity, edges := d.edges }

/-- **Entries next to each other:** all of them in their order, each at its place. -/
structure Placed (source ref : String) (kept : List DrawEntry) (drawn : List DrawnEdge) : Prop where
  all : drawn.map DrawnEdge.entry = kept
  places : drawn.map DrawnEdge.bump = bumpPositions kept.length
  ends : ∀ d ∈ drawn, d.source = source ∧ d.parent = ref

/-- **The edges drawn to one ref:** the edge for all loose entries, then the distinct entries; of
these the ones that have a width, next to each other. -/
def DrawsTo (source ref : String) (groups : List EdgeGroup) (display : Table Expr)
    (s : Surroundings) (drawn : List DrawnEdge) : Prop :=
  ∃ entries merged, SplitAll groups entries ∧ MergesLoose display s (looseEntries entries) merged ∧
    Placed source ref ((merged ++ distinctEntries entries).filter fun e => decide (0.0 < e.width))
      drawn

section Refs

variable {source ref : String} {groups : List EdgeGroup} {drawn : List DrawnEdge}
  {entries : List (DrawEntry × Bool)}

theorem length_bumpPositions (count : ℕ) : (bumpPositions count).length = count := by
  unfold bumpPositions
  split <;> simp

theorem placed_iff {kept : List DrawEntry} :
    Placed source ref kept drawn ↔ drawn = (kept.zip (bumpPositions kept.length)).map fun (e, bump) =>
      { source, bump, parent := ref, width := e.width, color := e.color, opacity := e.opacity
        edges := e.edges } := by
  constructor
  · intro h
    rw [← h.places, ← h.all, List.zip_map', List.map_map]
    -- what is drawn is made up of its entry, its place and its ends
    have hsame : ∀ d ∈ drawn, d = { d with source, parent := ref } := by
      intro d hd
      obtain ⟨rfl, rfl⟩ := h.ends d hd
      rfl
    exact (List.map_id drawn).symm.trans (List.map_congr_left hsame)
  · rintro rfl
    have hlength := length_bumpPositions kept.length
    refine ⟨?_, ?_, ?_⟩
    · rw [List.map_map]
      exact List.map_fst_zip hlength.ge
    · rw [List.map_map]
      exact List.map_snd_zip hlength.le
    · intro d hd
      obtain ⟨e, -, rfl⟩ := List.mem_map.1 hd
      exact ⟨rfl, rfl⟩

/-- **The entries of groups** are those that they are split into. -/
theorem splitAll_iff (h : ∀ g ∈ groups, g.OneOrEach) :
    SplitAll groups entries ↔
      ∃ parts, (groups.mapM EdgeGroup.entries).result = .ok parts ∧ parts.flatten = entries := by
  have hparts (parts : List (List (DrawEntry × Bool))) :
      List.Forall₂ EdgeGroup.Splits groups parts ↔
        (groups.mapM EdgeGroup.entries).result = .ok parts := by
    rw [Traced.result_mapM_ok]
    constructor
    · intro hsplits
      refine List.Forall₂.imp ?_ ((List.forall₂_and_left _ _).2 ⟨h, hsplits⟩)
      exact fun g part hg => (EdgeGroup.entries_ok hg.1).2 hg.2
    · intro hentries
      refine List.Forall₂.imp ?_ ((List.forall₂_and_left _ _).2 ⟨h, hentries⟩)
      exact fun g part hg => (EdgeGroup.entries_ok hg.1).1 hg.2
  simp only [SplitAll, hparts, eq_comm (a := entries)]

/-- **No edge is lost, and none occurs twice:** the edges of the entries are those of the groups, in
their order. -/
theorem SplitAll.flatMap_edges (h : SplitAll groups entries) :
    entries.flatMap (fun e => e.1.edges) = groups.flatMap EdgeGroup.edges := by
  obtain ⟨parts, hparts, rfl⟩ := h
  induction hparts with
  | nil => rfl
  | cons hsplits _ ih =>
    rw [List.flatten_cons, List.flatMap_append, List.flatMap_cons, hsplits.flatMap_edges, ih]

/-- Every entry is drawn by itself or with others. -/
theorem perm_loose_distinct (entries : List (DrawEntry × Bool)) :
    (looseEntries entries ++ distinctEntries entries).Perm (entries.map Prod.fst) := by
  have hperm := List.filter_append_perm (fun e : DrawEntry × Bool => !e.2) entries
  simp only [Bool.not_not] at hperm
  unfold looseEntries distinctEntries
  simpa only [List.map_append] using hperm.map Prod.fst

/-- Loose entries are merged if there are any. -/
theorem mergesLoose_iff {loose merged : List DrawEntry} :
    MergesLoose display s loose merged ↔
      (loose.isEmpty = true ∧ merged = []) ∨
        (¬ loose.isEmpty = true ∧ ∃ one, (mergeEntries display s loose).result = .ok one ∧
          merged = [one]) := by
  simp only [MergesLoose, List.isEmpty_iff, mergeEntries_ok, and_comm]

/-- **What is drawn to a ref,** whatever entries its groups have. -/
theorem drawToRef_iff : (drawToRef source ref groups display s).result = .ok drawn ↔
    ∃ parts merged, (groups.mapM EdgeGroup.entries).result = .ok parts ∧
      MergesLoose display s (looseEntries parts.flatten) merged ∧
      Placed source ref
        ((merged ++ distinctEntries parts.flatten).filter fun e => decide (0.0 < e.width)) drawn := by
  unfold drawToRef
  simp only [placed_iff, mergesLoose_iff, looseEntries, distinctEntries]
  rw [Traced.result_bind_ok]
  constructor
  · rintro ⟨parts, hparts, hrest⟩
    split at hrest
    · rename_i hempty
      exact ⟨parts, [], hparts, Or.inl ⟨hempty, rfl⟩, (Except.ok.inj hrest).symm⟩
    · rename_i hfilled
      obtain ⟨one, hone, hrest⟩ := Traced.result_bind_ok.1 hrest
      exact ⟨parts, [one], hparts, Or.inr ⟨hfilled, one, hone, rfl⟩, (Except.ok.inj hrest).symm⟩
  · rintro ⟨parts, merged, hparts, hmerged, rfl⟩
    refine ⟨parts, hparts, ?_⟩
    obtain ⟨hempty, rfl⟩ | ⟨hfilled, one, hone, rfl⟩ := hmerged
    · rw [if_pos hempty]
      rfl
    · rw [if_neg hfilled]
      exact Traced.result_bind_ok.2 ⟨one, hone, rfl⟩

theorem drawToRef_ok (h : ∀ g ∈ groups, g.OneOrEach) :
    (drawToRef source ref groups display s).result = .ok drawn ↔
      DrawsTo source ref groups display s drawn := by
  rw [drawToRef_iff]
  simp only [DrawsTo, splitAll_iff h]
  constructor
  · rintro ⟨parts, merged, hparts, hmerged, hplaced⟩
    exact ⟨_, merged, ⟨parts, hparts, rfl⟩, hmerged, hplaced⟩
  · rintro ⟨_, merged, ⟨parts, hparts, rfl⟩, hmerged, hplaced⟩
    exact ⟨parts, merged, hparts, hmerged, hplaced⟩

/-- **Why no edges are drawn to a ref:** a setting of a group or of merged edges has no value. -/
theorem drawToRef_error (h : ∀ g ∈ groups, g.OneOrEach)
    (hfail : (drawToRef source ref groups display s).result = .error failure) :
    (∃ g ∈ groups, ∃ name ∈ edgeSettings, ∃ e, g.display.get? name = some e ∧
      (e.evaluate g.surroundings).result = .error failure) ∨
    ∃ entries, SplitAll groups entries ∧ looseEntries entries ≠ [] ∧
      MergeFails display s (looseEntries entries) failure := by
  unfold drawToRef at hfail
  rcases Traced.result_bind_error.1 hfail with hentries | ⟨parts, hparts, hrest⟩
  · obtain ⟨g, hg, hentries⟩ := Traced.mem_of_mapM_error hentries
    exact Or.inl ⟨g, hg, EdgeGroup.exists_of_entries_error hentries⟩
  · refine Or.inr ⟨_, (splitAll_iff h).2 ⟨parts, hparts, rfl⟩, ?_⟩
    dsimp only at hrest
    split at hrest
    · cases hrest
    · rename_i hfilled
      rcases Traced.result_bind_error.1 hrest with hmerge | ⟨_, -, hpure⟩
      · exact ⟨mt List.isEmpty_iff.2 hfilled, mergeFails_of_error hmerge⟩
      · cases hpure

end Refs

/-! ## Groups of several refs -/

/-- **The edges drawn for groups of several refs,** ref by ref, the refs in the order in which they
come first. -/
def drawGroups (source : String) (groups : List (String × EdgeGroup)) (display : Table Expr)
    (s : Surroundings) : Eval (List DrawnEdge) := do
  let drawn ← (groupBy Prod.fst groups).entries.mapM fun (ref, members) =>
    drawToRef source ref (members.map Prod.snd) display s
  return drawn.flatten

/-- The groups of edges to a ref, in their order. -/
def groupsTo (ref : String) (groups : List (String × EdgeGroup)) : List EdgeGroup :=
  (groups.filter fun g => g.1 = ref).map Prod.snd

theorem drawGroups_eq (source : String) (groups : List (String × EdgeGroup)) (display : Table Expr)
    (s : Surroundings) : drawGroups source groups display s = do
      let drawn ← (groups.map Prod.fst).eraseDups.mapM fun ref =>
        drawToRef source ref (groupsTo ref groups) display s
      return drawn.flatten := by
  have hkeys : (groupBy Prod.fst groups).entries.map Prod.fst = (groups.map Prod.fst).eraseDups :=
    keys_groupBy
  have hblocks : ((groupBy Prod.fst groups).entries.mapM fun g : String × List (String × EdgeGroup) =>
      drawToRef source g.1 (g.2.map Prod.snd) display s) =
      (groups.map Prod.fst).eraseDups.mapM fun ref =>
        drawToRef source ref (groupsTo ref groups) display s := by
    rw [← hkeys, List.mapM_map]
    refine Traced.mapM_congr fun g hg => ?_
    rw [(mem_groupBy hg).1]
    rfl
  unfold drawGroups
  exact congrArg (fun x => x >>= fun drawn => Pure.pure drawn.flatten) hblocks

section Groups

variable {groups : List (String × EdgeGroup)}

theorem mem_groupsTo {ref : String} {g : EdgeGroup} (h : g ∈ groupsTo ref groups) :
    (ref, g) ∈ groups := by
  obtain ⟨⟨ref', g'⟩, hmem, rfl⟩ := List.mem_map.1 h
  rw [List.mem_filter, decide_eq_true_eq] at hmem
  obtain ⟨hmem, rfl⟩ := hmem
  exact hmem

/-- **The edges drawn for groups,** ref by ref in the order in which the refs come first. -/
theorem drawGroups_ok {source : String} {drawn : List DrawnEdge}
    (h : ∀ g ∈ groups, g.2.OneOrEach) :
    (drawGroups source groups display s).result = .ok drawn ↔
      ∃ blocks, List.Forall₂ (fun ref block =>
          DrawsTo source ref (groupsTo ref groups) display s block)
        (groups.map Prod.fst).eraseDups blocks ∧ drawn = blocks.flatten := by
  have hto (ref : String) : ∀ g ∈ groupsTo ref groups, g.OneOrEach :=
    fun g hg => h _ (mem_groupsTo hg)
  rw [drawGroups_eq, Traced.result_bind_ok]
  simp only [Traced.result_mapM_ok, drawToRef_ok (hto _), Traced.result_pure, Except.ok.injEq,
    eq_comm (a := drawn)]

/-- **Why no edges are drawn for groups:** a setting of one of them has no value, or one of the edge
for the loose entries of a ref. -/
theorem drawGroups_error {source : String} (h : ∀ g ∈ groups, g.2.OneOrEach)
    (hfail : (drawGroups source groups display s).result = .error failure) :
    (∃ g ∈ groups, ∃ name ∈ edgeSettings, ∃ e, g.2.display.get? name = some e ∧
      (e.evaluate g.2.surroundings).result = .error failure) ∨
    ∃ ref entries, SplitAll (groupsTo ref groups) entries ∧ looseEntries entries ≠ [] ∧
      MergeFails display s (looseEntries entries) failure := by
  rw [drawGroups_eq] at hfail
  rcases Traced.result_bind_error.1 hfail with hblocks | ⟨_, -, hpure⟩
  · obtain ⟨ref, -, hblock⟩ := Traced.mem_of_mapM_error hblocks
    obtain ⟨g, hg, hsetting⟩ | hmerge :=
      drawToRef_error (fun g hg => h _ (mem_groupsTo hg)) hblock
    · exact Or.inl ⟨(ref, g), mem_groupsTo hg, hsetting⟩
    · exact Or.inr ⟨ref, hmerge⟩
  · cases hpure

end Groups

/-! ## The edges of a node -/

/-- Groups that are listed ref by ref, one after the other. -/
def listGroups (refs : List (String × List EdgeGroup)) : List (String × EdgeGroup) :=
  refs.flatMap fun (ref, groups) => groups.map fun g => (ref, g)

section Listing

variable {refs : List (String × List EdgeGroup)}

theorem mem_listGroups {ref : String} {g : EdgeGroup} (h : (ref, g) ∈ listGroups refs) :
    ref ∈ refs.map Prod.fst := by
  obtain ⟨⟨ref', groups⟩, hmem, hg⟩ := List.mem_flatMap.1 h
  obtain ⟨_, -, heq⟩ := List.mem_map.1 hg
  obtain rfl : ref' = ref := congrArg Prod.fst heq
  exact List.mem_map_of_mem hmem

/-- The refs of listed groups are those that they were listed by. -/
theorem eraseDups_listGroups (hnodup : (refs.map Prod.fst).Nodup) (hne : ∀ r ∈ refs, r.2 ≠ []) :
    ((listGroups refs).map Prod.fst).eraseDups = refs.map Prod.fst := by
  induction refs with
  | nil => rfl
  | cons r refs ih =>
    obtain ⟨ref, groups⟩ := r
    rw [List.map_cons, List.nodup_cons] at hnodup
    obtain ⟨g, rest, rfl⟩ := List.exists_cons_of_ne_nil (hne _ List.mem_cons_self)
    have hother : ∀ k ∈ (listGroups refs).map Prod.fst, k ≠ ref := by
      rintro k hk rfl
      obtain ⟨⟨k', g'⟩, hg', rfl⟩ := List.mem_map.1 hk
      exact hnodup.1 (mem_listGroups hg')
    have hlist : (listGroups ((ref, g :: rest) :: refs)).map Prod.fst =
        ref :: (List.replicate rest.length ref ++ (listGroups refs).map Prod.fst) := by
      simp [listGroups, List.map_const', Function.comp_def]
    have hfilter : (List.replicate rest.length ref ++ (listGroups refs).map Prod.fst).filter
        (fun k => !k == ref) = (listGroups refs).map Prod.fst := by
      rw [List.filter_append, List.filter_replicate, List.filter_eq_self.2]
      · simp
      · simpa using hother
    rw [hlist, List.eraseDups_cons, hfilter, ih hnodup.2 fun r hr => hne r (by simp [hr])]
    rfl

theorem groupsTo_append (ref : String) (groups groups' : List (String × EdgeGroup)) :
    groupsTo ref (groups ++ groups') = groupsTo ref groups ++ groupsTo ref groups' := by
  simp [groupsTo]

/-- The groups to a ref are those that were listed by it. -/
theorem groupsTo_listGroups (hnodup : (refs.map Prod.fst).Nodup) {ref : String}
    {groups : List EdgeGroup} (h : (ref, groups) ∈ refs) :
    groupsTo ref (listGroups refs) = groups := by
  have hnone {k : String} {refs : List (String × List EdgeGroup)} (hk : k ∉ refs.map Prod.fst) :
      groupsTo k (listGroups refs) = [] := by
    refine List.eq_nil_iff_forall_not_mem.2 fun g hg => hk ?_
    exact mem_listGroups (mem_groupsTo hg)
  induction refs with
  | nil => cases h
  | cons r refs ih =>
    obtain ⟨ref', groups'⟩ := r
    rw [List.map_cons, List.nodup_cons] at hnodup
    have hsplit : listGroups ((ref', groups') :: refs) =
        groups'.map (fun g => (ref', g)) ++ listGroups refs := rfl
    rw [hsplit, groupsTo_append]
    rcases List.mem_cons.1 h with heq | h
    · obtain ⟨rfl, rfl⟩ := Prod.mk.inj heq
      rw [hnone hnodup.1, List.append_nil]
      simp [groupsTo, List.filter_map, Function.comp_def]
    · have hother : ref' ≠ ref := by
        rintro rfl
        exact hnodup.1 (List.mem_map.2 ⟨_, h, rfl⟩)
      rw [ih hnodup.2 h]
      simp [groupsTo, List.filter_map, Function.comp_def, hother]

end Listing

namespace Model

/-- **The groups of the edges of a node,** ref by ref and type by type. -/
def edgeGroups (m : Model) (i : Inputs) (results : Table Float) :
    Derived (List (String × EdgeGroup)) := do
  let refs ← (groupBy ExpandedEdge.ref i.edges).entries.mapM fun (ref, edges) => do
    let types := groupBy ExpandedEdge.type edges
    return (ref, ← types.entries.mapM fun (type, typed) => m.edgeGroup i results type typed)
  return listGroups refs

/-- **The edges of a node are drawn as those of its groups are.** -/
theorem drawnEdges_eq (m : Model) (id : String) (i : Inputs) (results : Table Float) :
    m.drawnEdges id i results = m.edgeGroups i results >>= fun groups =>
      Traced.mapError .eval (drawGroups id groups m.definition.display.edgeCombiner
        { root := i.root, results, tagConstants := m.tagConstants }) := by
  unfold drawnEdges edgeGroups
  rw [bind_assoc]
  refine Traced.bind_congr fun refs hrefs => ?_
  have hkeys : refs.map Prod.fst = (groupBy ExpandedEdge.ref i.edges).keys := by
    have hsame := (Traced.result_mapM_ok.1 hrefs).imp (S := fun e r => r.1 = e.1) fun e r hr => by
      obtain ⟨_, -, hpure⟩ := Traced.result_bind_ok.1 hr
      obtain rfl := Except.ok.inj hpure
      rfl
    exact List.forall₂_eq_eq_eq ▸
      List.forall₂_map_left_iff.2 (List.forall₂_map_right_iff.2 hsame.flip)
  have hne : ∀ r ∈ refs, r.2 ≠ [] := by
    intro r hr
    obtain ⟨⟨ref, edges⟩, hmem, hr⟩ := Traced.mem_of_mapM_ok hrefs hr
    obtain ⟨groups, hgroups, hpure⟩ := Traced.result_bind_ok.1 hr
    obtain rfl := Except.ok.inj hpure
    rintro rfl
    -- an edge of the ref has a type, and the type has a group
    obtain ⟨e, he⟩ := List.exists_mem_of_ne_nil _ (mem_groupBy hmem).2
    have htype : e.type ∈ (groupBy ExpandedEdge.type edges).keys := by
      rw [keys_groupBy, List.mem_eraseDups]
      exact List.mem_map_of_mem he
    have hnil := List.forall₂_nil_right_iff.1 (Traced.result_mapM_ok.1 hgroups)
    rw [Table.keys, hnil] at htype
    cases htype
  have hnodup : (refs.map Prod.fst).Nodup := hkeys ▸ Table.nodup_keys _
  rw [pure_bind, drawGroups_eq, eraseDups_listGroups hnodup hne, List.mapM_map]
  simp only [Traced.mapError_bind, Traced.mapError_mapM, Traced.mapError_pure]
  refine congrArg (fun x => x >>= fun drawn => Pure.pure drawn.flatten)
    (Traced.mapM_congr fun r hr => ?_)
  rw [Function.comp_apply, groupsTo_listGroups hnodup hr]

end Model

/-- **Drawing edges loses and duplicates nothing.** Where each display setting of a group has one
number or one for each of its edges, every edge of a group is in one entry; ref by ref, the loose
entries are drawn as one edge and the distinct ones behind it, as far as they have a width, next
to each other. They are unless a display setting has no value. The edges of a node are drawn as
those of its groups are. -/
theorem drawGroups_loses_nothing (source : String) (groups : List (String × EdgeGroup))
    (display : Table Expr) (s : Surroundings) (h : ∀ g ∈ groups, g.2.OneOrEach) :
    (∀ drawn, (drawGroups source groups display s).result = .ok drawn ↔
      ∃ blocks, List.Forall₂ (fun ref block =>
          DrawsTo source ref (groupsTo ref groups) display s block)
        (groups.map Prod.fst).eraseDups blocks ∧ drawn = blocks.flatten) ∧
    (∀ ref entries, SplitAll (groupsTo ref groups) entries →
      entries.flatMap (fun e => e.1.edges) = (groupsTo ref groups).flatMap EdgeGroup.edges ∧
        (looseEntries entries ++ distinctEntries entries).Perm (entries.map Prod.fst)) ∧
    (∀ failure, (drawGroups source groups display s).result = .error failure →
      (∃ g ∈ groups, ∃ name ∈ edgeSettings, ∃ e, g.2.display.get? name = some e ∧
        (e.evaluate g.2.surroundings).result = .error failure) ∨
      ∃ ref entries, SplitAll (groupsTo ref groups) entries ∧ looseEntries entries ≠ [] ∧
        MergeFails display s (looseEntries entries) failure) ∧
    ∀ (m : Model) id i results, m.drawnEdges id i results =
      m.edgeGroups i results >>= fun groups =>
        Traced.mapError .eval (drawGroups id groups m.definition.display.edgeCombiner
          { root := i.root, results, tagConstants := m.tagConstants }) :=
  ⟨fun _ => drawGroups_ok h,
    fun _ entries hsplit => ⟨hsplit.flatMap_edges, perm_loose_distinct entries⟩,
    fun _ hfail => drawGroups_error h hfail, Model.drawnEdges_eq⟩

/-- Two pipes and a canal to a lake, of which one pipe is distinct, and two roads to a mill, which
have no width. -/
theorem drawGroups_loses_nothing_town :
    let edge (ref type : String) : ExpandedEdge := { source := "town", ref, type }
    let pipes : EdgeGroup :=
      { edges := [edge "lake" "pipe", edge "lake" "pipe"]
        display := .ofList [("width", .edgeConstant "width"), ("distinct", .edgeConstant "own")]
        surroundings :=
          { edges := [.ofList [("width", 2.0), ("own", 1.0)], .ofList [("width", 3.0), ("own", 0.0)]]
            refs := [∅, ∅] } }
    let roads : EdgeGroup :=
      { edges := [edge "mill" "road", edge "mill" "road"]
        display := .ofList [("width", .literal [0.0])]
        surroundings := { edges := [∅, ∅], refs := [∅, ∅] } }
    let canal : EdgeGroup :=
      { edges := [edge "lake" "canal"], display := ∅
        surroundings := { edges := [∅], refs := [∅] } }
    let groups := [("lake", pipes), ("mill", roads), ("lake", canal)]
    let display : Table Expr := .ofList [("width", .combine .sum .input)]
    (∀ g ∈ groups, g.2.OneOrEach) ∧
      ∃ lake mill, DrawsTo "town" "lake" [pipes, canal] display {} lake ∧
        DrawsTo "town" "mill" [roads] display {} mill ∧
        (lake ++ mill).map (fun d => (d.parent, d.width, d.bump, d.edges.map ExpandedEdge.type)) =
          [("lake", 4.0, 0.475, ["pipe", "canal"]), ("lake", 2.0, 0.525, ["pipe"])] := by
  intro edge pipes roads canal groups display
  have hone : ∀ g ∈ groups, g.2.OneOrEach := by decide +kernel
  have hdrawn : (drawGroups "town" groups display {}).result.map (List.map fun d =>
      (d.parent, d.width, d.bump, d.edges.map ExpandedEdge.type)) =
      .ok [("lake", 4.0, 0.475, ["pipe", "canal"]), ("lake", 2.0, 0.525, ["pipe"])] := by
    decide +kernel
  obtain ⟨drawn, hok, hmap⟩ := map_eq_ok.1 hdrawn
  obtain ⟨blocks, hblocks, rfl⟩ :=
    ((drawGroups_loses_nothing "town" groups display {} hone).1 drawn).1 hok
  have hrefs : (groups.map Prod.fst).eraseDups = ["lake", "mill"] := by decide +kernel
  rw [hrefs] at hblocks
  cases hblocks with
  | @cons _ lake _ _ hlake hblocks =>
    cases hblocks with
    | @cons _ mill _ _ hmill hblocks =>
      cases hblocks
      exact ⟨hone, lake, mill, hlake, hmill, by simpa using hmap⟩

end ValuedGraph
