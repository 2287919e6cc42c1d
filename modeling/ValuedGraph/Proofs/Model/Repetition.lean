import Mathlib.Data.List.Flatten
import ValuedGraph.Proofs.Model.Drawing
import ValuedGraph.Proofs.Model.Failures

/-!
# Edges that are drawn twice

An edge of a node is in one group, and what is drawn of the group lists it once for each entry that
stands for it. The entries of a group stand for one edge each, or all of them stand for all edges.
In the second case, the entries that are drawn as one list every edge of the group once for each of
them, so an edge is listed twice if there are two.

* `AtDifferentPlaces`: edges at pairwise different places of a list.
* `EdgeGroup.Repeats`: **a group with several loose entries, each of which stands for all its edges.**
* `drawToRef_repeats_iff`: the edges drawn to one ref.
* `Model.edgeGroups_edges`: the edges of the groups to a ref.
* `drawn_edges_repeat_iff`: **the edges that a drawn edge stands for.**
-/

namespace ValuedGraph

/-! ## Places -/

/-- **Edges at pairwise different places** of a list of edges. -/
def AtDifferentPlaces (edges listed : List ExpandedEdge) : Prop :=
  ∃ places : List ℕ, places.Nodup ∧ List.Forall₂ (fun x i => edges[i]? = some x) listed places

variable {edges listed : List ExpandedEdge}

theorem filterMap_getElem?_range (edges : List ExpandedEdge) :
    (List.range edges.length).filterMap (edges[·]?) = edges := by
  induction edges with
  | nil => rfl
  | cons e edges ih =>
    rw [List.length_cons, List.range_succ_eq_map, List.filterMap_cons_some (by rfl),
      List.filterMap_map]
    exact congrArg (e :: ·) ih

/-- **Edges at different places** are some of the edges, in any order. -/
theorem atDifferentPlaces_iff : AtDifferentPlaces edges listed ↔ listed.Subperm edges := by
  constructor
  · rintro ⟨places, hnodup, hall⟩
    have hlisted : listed = places.filterMap (edges[·]?) := by
      clear hnodup
      induction hall with
      | nil => rfl
      | cons hx _ ih => rw [List.filterMap_cons_some hx, ← ih]
    have hrange : places ⊆ List.range edges.length := fun i hi =>
      List.mem_range.2 (forall_mem_of_forall₂ hall (P := fun i => i < edges.length)
        (fun _ _ hx => (List.getElem?_eq_some_iff.1 hx).1) i hi)
    obtain ⟨l, hperm, hsub⟩ := List.subperm_of_subset hnodup hrange
    have hpart := hsub.filterMap (edges[·]?)
    rw [filterMap_getElem?_range] at hpart
    rw [hlisted]
    exact ⟨_, hperm.filterMap _, hpart⟩
  · rintro ⟨l, hperm, hsub⟩
    obtain ⟨places, rfl, hordered⟩ := List.sublist_eq_map_getElem hsub
    have hall : List.Forall₂ (fun x i => edges[i]? = some x) (places.map fun i => edges[i])
        (places.map Fin.val) := by
      rw [List.forall₂_map_left_iff, List.forall₂_map_right_iff, List.forall₂_same]
      exact fun i _ => List.getElem?_eq_getElem i.isLt
    have hnodup : (places.map Fin.val).Nodup :=
      List.Nodup.map Fin.val_injective (hordered.imp Fin.ne_of_lt)
    obtain ⟨places', hall', hperm'⟩ := List.perm_comp_forall₂ hperm.symm hall
    exact ⟨places', hperm'.nodup_iff.2 hnodup, hall'⟩

/-! ## Groups that repeat their edges -/

namespace EdgeGroup

variable {g : EdgeGroup} {entries : List (DrawEntry × Bool)}

/-- **A group repeats its edges** if it has several loose entries, and each of them stands for all
edges of the group. -/
def Repeats (g : EdgeGroup) : Prop :=
  ∃ entries, g.entries.result = .ok entries ∧ entries.length ≠ g.edges.length ∧
    1 < (looseEntries entries).length

theorem loose_sublist (entries : List (DrawEntry × Bool)) :
    (looseEntries entries).Sublist (entries.map Prod.fst) :=
  List.filter_sublist.map Prod.fst

/-- What an entry lists are edges of the group, in their order. -/
theorem sublist_of_mem_entries (h : g.entries.result = .ok entries) {e : DrawEntry × Bool}
    (he : e ∈ entries) : e.1.edges.Sublist g.edges := by
  obtain ⟨-, heach⟩ | ⟨-, hall⟩ := edges_of_entries h
  · have hmem : e.1.edges ∈ g.edges.map fun x => [x] := heach ▸ List.mem_map_of_mem he
    obtain ⟨x, hx, heq⟩ := List.mem_map.1 hmem
    rw [← heq]
    exact List.singleton_sublist.2 hx
  · rw [hall e he]

/-- **The loose entries of a group that does not repeat** list no edge of the group twice. -/
theorem flatMap_loose_sublist (h : g.entries.result = .ok entries) (hrepeats : ¬ g.Repeats) :
    ((looseEntries entries).flatMap DrawEntry.edges).Sublist g.edges := by
  obtain ⟨-, heach⟩ | ⟨hlength, hall⟩ := edges_of_entries h
  · have hflat : (entries.map Prod.fst).flatMap DrawEntry.edges = g.edges := by
      rw [List.flatMap_map, List.flatMap_def, heach, ← List.flatMap_def]
      simp
    rw [← hflat]
    exact (loose_sublist entries).flatMap DrawEntry.edges
  · have hone : (looseEntries entries).length ≤ 1 :=
      Nat.not_lt.1 fun hmany => hrepeats ⟨entries, h, hlength, hmany⟩
    match hloose : looseEntries entries with
    | [] => exact List.nil_sublist _
    | [e] =>
      have he : e ∈ entries.map Prod.fst := (loose_sublist entries).subset (by rw [hloose]; simp)
      obtain ⟨p, hp, rfl⟩ := List.mem_map.1 he
      rw [List.flatMap_singleton, hall p hp]
    | _ :: _ :: _ =>
      rw [hloose] at hone
      simp at hone

/-- **The loose entries of a group that repeats** list every edge of the group twice or more. -/
theorem le_countP_loose (h : g.entries.result = .ok entries) (hrepeats : g.Repeats)
    (p : ExpandedEdge → Bool) :
    2 * g.edges.countP p ≤ ((looseEntries entries).flatMap DrawEntry.edges).countP p := by
  obtain ⟨entries', h', hlength, hmany⟩ := hrepeats
  obtain rfl := Except.ok.inj (h.symm.trans h')
  have hall : ∀ e ∈ looseEntries entries, e.edges = g.edges := by
    intro e he
    obtain ⟨q, hq, rfl⟩ := List.mem_map.1 ((loose_sublist entries).subset he)
    obtain ⟨heq, -⟩ | ⟨-, hall⟩ := edges_of_entries h
    · exact absurd heq hlength
    · exact hall q hq
  match hloose : looseEntries entries with
  | [] | [_] =>
    rw [hloose] at hmany
    simp at hmany
  | e :: e' :: rest =>
    rw [hloose] at hall
    rw [List.flatMap_cons, List.flatMap_cons, List.countP_append, List.countP_append,
      hall e (by simp), hall e' (by simp)]
    omega

end EdgeGroup

/-! ## The edges to one ref -/

section Refs

variable {groups : List EdgeGroup} {parts : List (List (DrawEntry × Bool))} {source ref : String}
  {display : Table Expr} {s : Surroundings} {drawn : List DrawnEdge}

/-- **The one edge that the loose entries of groups are drawn as.** -/
def DrawnAsOne (groups : List EdgeGroup) (display : Table Expr) (s : Surroundings)
    (one : DrawEntry) : Prop :=
  ∃ parts, (groups.mapM EdgeGroup.entries).result = .ok parts ∧
    looseEntries parts.flatten ≠ [] ∧ Merges display s (looseEntries parts.flatten) one

theorem looseEntries_cons (part : List (DrawEntry × Bool)) (rest : List (List (DrawEntry × Bool))) :
    looseEntries (part :: rest).flatten = looseEntries part ++ looseEntries rest.flatten := by
  simp [looseEntries]

/-- Groups that do not repeat their edges list none of them twice together. -/
theorem flatMap_loose_sublist
    (h : List.Forall₂ (fun g part => (EdgeGroup.entries g).result = .ok part) groups parts)
    (hrepeats : ∀ g ∈ groups, ¬ g.Repeats) :
    ((looseEntries parts.flatten).flatMap DrawEntry.edges).Sublist
      (groups.flatMap EdgeGroup.edges) := by
  induction h with
  | nil => exact List.Sublist.refl _
  | cons hpart _ ih =>
    rw [looseEntries_cons, List.flatMap_append, List.flatMap_cons]
    exact (EdgeGroup.flatMap_loose_sublist hpart (hrepeats _ List.mem_cons_self)).append
      (ih fun g hg => hrepeats g (List.mem_cons_of_mem _ hg))

/-- A group that repeats its edges does so among others. -/
theorem le_countP_loose
    (h : List.Forall₂ (fun g part => (EdgeGroup.entries g).result = .ok part) groups parts)
    {g : EdgeGroup} (hg : g ∈ groups) (hrepeats : g.Repeats) (p : ExpandedEdge → Bool) :
    2 * g.edges.countP p ≤ ((looseEntries parts.flatten).flatMap DrawEntry.edges).countP p := by
  induction h with
  | nil => cases hg
  | cons hpart _ ih =>
    rw [looseEntries_cons, List.flatMap_append, List.countP_append]
    rcases List.mem_cons.1 hg with rfl | hg
    · exact (EdgeGroup.le_countP_loose hpart hrepeats p).trans (Nat.le_add_right _ _)
    · exact (ih hg).trans (Nat.le_add_left _ _)

/-- An entry lists edges of one group. -/
theorem exists_group_of_entry
    (h : List.Forall₂ (fun g part => (EdgeGroup.entries g).result = .ok part) groups parts)
    {e : DrawEntry × Bool} (he : e ∈ parts.flatten) :
    ∃ g ∈ groups, e.1.edges.Sublist g.edges := by
  obtain ⟨part, hpart, hmem⟩ := List.mem_flatten.1 he
  clear he
  induction h with
  | nil => cases hpart
  | cons hentries _ ih =>
    rcases List.mem_cons.1 hpart with rfl | hpart
    · exact ⟨_, List.mem_cons_self, EdgeGroup.sublist_of_mem_entries hentries hmem⟩
    · obtain ⟨g, hg, hsub⟩ := ih hpart
      exact ⟨g, List.mem_cons_of_mem _ hg, hsub⟩

/-- **The edges that are drawn to a ref list an edge twice** if a group repeats its edges, and only
then, as long as the one edge for all loose entries has a width. Every edge has to be in one group
only, as `p` says of a group that it has all edges of its kind. -/
theorem drawToRef_repeats_iff
    (hedges : (groups.flatMap EdgeGroup.edges).Subperm edges)
    (hgroup : ∀ g ∈ groups, ∃ p, g.edges.countP p = edges.countP p ∧ 0 < edges.countP p)
    (h : (drawToRef source ref groups display s).result = .ok drawn) :
    (∃ d ∈ drawn, ¬ AtDifferentPlaces edges d.edges) ↔
      (∃ g ∈ groups, g.Repeats) ∧ ∃ one, DrawnAsOne groups display s one ∧ 0.0 < one.width := by
  obtain ⟨parts, merged, hparts, hmerged, hplaced⟩ := drawToRef_iff.1 h
  have hsplit := Traced.result_mapM_ok.1 hparts
  have hdrawn (e : DrawEntry) : (∃ d ∈ drawn, d.entry = e) ↔
      e ∈ merged ++ distinctEntries parts.flatten ∧ 0.0 < e.width := by
    rw [← List.mem_map, hplaced.all, List.mem_filter, decide_eq_true_iff]
  simp only [atDifferentPlaces_iff]
  constructor
  · rintro ⟨d, hd, hnot⟩
    obtain ⟨hmem, hwidth⟩ := (hdrawn d.entry).1 ⟨d, hd, rfl⟩
    rcases List.mem_append.1 hmem with hone | hdistinct
    · obtain ⟨-, rfl⟩ | ⟨hfilled, one, rfl, hmerge⟩ := hmerged
      · cases hone
      · obtain rfl := List.mem_singleton.1 hone
        refine ⟨?_, _, ⟨parts, hparts, hfilled, hmerge⟩, hwidth⟩
        by_contra hrepeats
        refine hnot ?_
        have hsub := flatMap_loose_sublist hsplit fun g hg hg' => hrepeats ⟨g, hg, hg'⟩
        rw [← hmerge.edges] at hsub
        exact hsub.subperm.trans hedges
    · obtain ⟨e, he, heq⟩ := List.mem_map.1 hdistinct
      obtain ⟨g, hg, hsub⟩ := exists_group_of_entry hsplit (List.mem_of_mem_filter he)
      rw [heq] at hsub
      have hpart : g.edges.Sublist (groups.flatMap EdgeGroup.edges) := by
        rw [List.flatMap_def]
        exact List.sublist_flatten_of_mem (List.mem_map_of_mem hg)
      exact absurd ((hsub.trans hpart).subperm.trans hedges) hnot
  · rintro ⟨⟨g, hg, hrepeats⟩, one, ⟨parts', hparts', hfilled, hmerge⟩, hwidth⟩
    obtain rfl := Except.ok.inj (hparts.symm.trans hparts')
    have hmem : one ∈ merged := by
      obtain ⟨hempty, -⟩ | ⟨-, one', rfl, hmerge'⟩ := hmerged
      · exact absurd hempty hfilled
      · have hsame := (mergeEntries_ok.2 hmerge).symm.trans (mergeEntries_ok.2 hmerge')
        exact List.mem_singleton.2 (Except.ok.inj hsame)
    obtain ⟨d, hd, rfl⟩ := (hdrawn one).2 ⟨List.mem_append_left _ hmem, hwidth⟩
    refine ⟨d, hd, fun hsub => ?_⟩
    obtain ⟨p, hsame, hpos⟩ := hgroup g hg
    have htwice := le_countP_loose hsplit hg hrepeats p
    have honce := hsub.countP_le p
    rw [← hmerge.edges] at htwice
    change 2 * _ ≤ d.edges.countP p at htwice
    omega

end Refs

/-- **The edges that are drawn for groups of several refs,** ref by ref. -/
theorem drawGroups_repeats_iff {groups : List (String × EdgeGroup)} {source : String}
    {display : Table Expr} {s : Surroundings} {drawn : List DrawnEdge}
    (hedges : ∀ ref, ((groupsTo ref groups).flatMap EdgeGroup.edges).Subperm edges)
    (hgroup : ∀ ref, ∀ g ∈ groupsTo ref groups,
      ∃ p, g.edges.countP p = edges.countP p ∧ 0 < edges.countP p)
    (h : (drawGroups source groups display s).result = .ok drawn) (ref : String) :
    (∃ d ∈ drawn, d.parent = ref ∧ ¬ AtDifferentPlaces edges d.edges) ↔
      (∃ g ∈ groupsTo ref groups, g.Repeats) ∧
        ∃ one, DrawnAsOne (groupsTo ref groups) display s one ∧ 0.0 < one.width := by
  rw [drawGroups_eq] at h
  obtain ⟨blocks, hblocks, hpure⟩ := Traced.result_bind_ok.1 h
  obtain rfl := Except.ok.inj hpure
  have hparent (k : String) (block : List DrawnEdge)
      (hblock : (drawToRef source k (groupsTo k groups) display s).result = .ok block) :
      ∀ d ∈ block, d.parent = k := by
    obtain ⟨_, _, -, -, hplaced⟩ := drawToRef_iff.1 hblock
    exact fun d hd => (hplaced.ends d hd).2
  by_cases href : ref ∈ (groups.map Prod.fst).eraseDups
  · -- what is drawn to a ref is in the block of this ref
    obtain ⟨block, hmem, hblock⟩ := Traced.exists_of_mapM_ok hblocks href
    rw [← drawToRef_repeats_iff (hedges ref) (hgroup ref) hblock]
    constructor
    · rintro ⟨d, hd, rfl, hnot⟩
      obtain ⟨block', hmem', hd⟩ := List.mem_flatten.1 hd
      obtain ⟨k, -, hk⟩ := Traced.mem_of_mapM_ok hblocks hmem'
      obtain rfl := hparent k block' hk d hd
      obtain rfl := Except.ok.inj (hk.symm.trans hblock)
      exact ⟨d, hd, hnot⟩
    · rintro ⟨d, hd, hnot⟩
      exact ⟨d, List.mem_flatten_of_mem hmem hd, hparent ref block hblock d hd, hnot⟩
  · refine iff_of_false ?_ ?_
    · rintro ⟨d, hd, rfl, -⟩
      obtain ⟨block, hmem, hd⟩ := List.mem_flatten.1 hd
      obtain ⟨k, hk, hblock⟩ := Traced.mem_of_mapM_ok hblocks hmem
      exact href (hparent k block hblock d hd ▸ hk)
    · rintro ⟨⟨g, hg, -⟩, -⟩
      exact href (List.mem_eraseDups.2 (List.mem_map_of_mem (f := Prod.fst) (mem_groupsTo hg)))

/-! ## The edges of a node -/

namespace Model

variable {m : Model} {σ : Scenario} {id : String} {i : Inputs} {results : Table Float}
  {groups : List (String × EdgeGroup)}

/-- **The groups of a node** are listed ref by ref, and for each ref type by type. -/
theorem edgeGroups_ok : (m.edgeGroups i results).result = .ok groups ↔
    ∃ refs, List.Forall₂ (fun g r => r.1 = g.1 ∧ ((groupBy ExpandedEdge.type g.2).entries.mapM
        fun t => m.edgeGroup i results t.1 t.2).result = .ok r.2)
      (groupBy ExpandedEdge.ref i.edges).entries refs ∧ groups = listGroups refs := by
  have hgroup (g : String × List ExpandedEdge) (r : String × List EdgeGroup) :
      ((do return (g.1, ← (groupBy ExpandedEdge.type g.2).entries.mapM
        fun t => m.edgeGroup i results t.1 t.2)) : Derived _).result = .ok r ↔
      r.1 = g.1 ∧ ((groupBy ExpandedEdge.type g.2).entries.mapM
        fun t => m.edgeGroup i results t.1 t.2).result = .ok r.2 := by
    rw [Traced.result_bind_ok]
    constructor
    · rintro ⟨types, htypes, hpure⟩
      obtain rfl := Except.ok.inj hpure
      exact ⟨rfl, htypes⟩
    · rintro ⟨href, htypes⟩
      exact ⟨_, htypes, by rw [← href]; rfl⟩
  unfold edgeGroups
  rw [Traced.result_bind_ok]
  constructor
  · rintro ⟨refs, hrefs, hpure⟩
    refine ⟨refs, ?_, (Except.ok.inj hpure).symm⟩
    exact (Traced.result_mapM_ok.1 hrefs).imp fun g r => (hgroup g r).1
  · rintro ⟨refs, hrefs, rfl⟩
    exact ⟨refs, Traced.result_mapM_ok.2 (hrefs.imp fun g r => (hgroup g r).2), rfl⟩

/-- The groups of a ref have its edges, each those of one type. -/
theorem groupsOfRef_edges {typed : List ExpandedEdge} {gs : List EdgeGroup}
    (h : ((groupBy ExpandedEdge.type typed).entries.mapM
      fun t => m.edgeGroup i results t.1 t.2).result = .ok gs) :
    (gs.flatMap EdgeGroup.edges).Perm typed ∧
      ∀ g ∈ gs, g.edges ≠ [] ∧ ∃ type, g.edges = typed.filter fun e => e.type = type := by
  have hedges : List.Forall₂ (fun t g => EdgeGroup.edges g = t.2)
      (groupBy ExpandedEdge.type typed).entries gs := by
    refine (Traced.result_mapM_ok.1 h).imp fun t g hg => ?_
    obtain ⟨_, -, hg⟩ := Traced.result_bind_ok.1 hg
    obtain ⟨_, -, hg⟩ := Traced.result_bind_ok.1 hg
    obtain ⟨_, -, hpure⟩ := Traced.result_bind_ok.1 hg
    obtain rfl := Except.ok.inj hpure
    rfl
  constructor
  · have hflat : gs.flatMap EdgeGroup.edges =
        (groupBy ExpandedEdge.type typed).entries.flatMap Prod.snd := by
      rw [List.flatMap_def, List.flatMap_def]
      refine congrArg List.flatten ?_
      exact List.forall₂_eq_eq_eq ▸
        List.forall₂_map_left_iff.2 (List.forall₂_map_right_iff.2 hedges.flip)
    rw [hflat]
    exact perm_groupBy
  · intro g hg
    obtain ⟨t, hmem, heq⟩ := exists_of_forall₂ hedges hg
    obtain ⟨hfilter, hne⟩ := mem_groupBy hmem
    rw [heq]
    exact ⟨hne, t.1, hfilter⟩

/-- **The groups to a ref** have the edges to it, each those of one type. -/
theorem edgeGroups_edges (h : (m.edgeGroups i results).result = .ok groups) (ref : String) :
    ((groupsTo ref groups).flatMap EdgeGroup.edges).Perm (i.edges.filter fun e => e.ref = ref) ∧
      ∀ g ∈ groupsTo ref groups, g.edges ≠ [] ∧ ∃ type,
        g.edges = (i.edges.filter fun e => e.ref = ref).filter fun e => e.type = type := by
  obtain ⟨refs, hrefs, rfl⟩ := edgeGroups_ok.1 h
  have hkeys : refs.map Prod.fst = (groupBy ExpandedEdge.ref i.edges).keys :=
    List.forall₂_eq_eq_eq ▸ List.forall₂_map_left_iff.2
      (List.forall₂_map_right_iff.2 (hrefs.imp fun g r hr => hr.1).flip)
  have hnodup : (refs.map Prod.fst).Nodup := hkeys ▸ Table.nodup_keys _
  by_cases href : ref ∈ refs.map Prod.fst
  · obtain ⟨⟨_, gs⟩, hmem, rfl⟩ := List.mem_map.1 href
    rw [groupsTo_listGroups hnodup hmem]
    obtain ⟨⟨k, typed⟩, hg, rfl, htypes⟩ := exists_of_forall₂ hrefs hmem
    rw [← (mem_groupBy hg).1]
    exact groupsOfRef_edges htypes
  · have hnone : groupsTo ref (listGroups refs) = [] :=
      List.eq_nil_iff_forall_not_mem.2 fun g hg => href (mem_listGroups (mem_groupsTo hg))
    have hempty : (i.edges.filter fun e => e.ref = ref) = [] := by
      refine List.filter_eq_nil_iff.2 fun e he heq => href ?_
      rw [hkeys, keys_groupBy, List.mem_eraseDups]
      exact List.mem_map.2 ⟨e, he, of_decide_eq_true heq⟩
    rw [hnone, hempty]
    exact ⟨List.Perm.refl _, nofun⟩

/-- **The groups that the edges of a node are drawn in,** and what those are evaluated in that are
drawn as one. The root has no edges. -/
inductive DrawsFrom (m : Model) (σ : Scenario) : String → List (String × EdgeGroup) →
    Surroundings → Prop
  | root : DrawsFrom m σ rootId [] {}
  | node {id : String} {values : Table Float} {i : Inputs} {groups : List (String × EdgeGroup)}
    (hid : id ≠ rootId) (hvalues : m.valuesOf σ id = .ok values) (hi : m.inputsOf σ id = .ok i)
    (hgroups : (m.edgeGroups i values).result = .ok groups) :
    DrawsFrom m σ id groups { root := i.root, results := values, tagConstants := m.tagConstants }

end Model

/-- The groups that a node is drawn from have its edges. -/
theorem Model.edges_of_drawsFrom {m : Model} {σ : Scenario} {id : String} {edges : List ExpandedEdge}
    {groups : List (String × EdgeGroup)} {s : Surroundings} (h : m.DrawsFrom σ id groups s)
    (hedges : m.edgesOf id = .ok edges) (ref : String) :
    ((groupsTo ref groups).flatMap EdgeGroup.edges).Subperm edges ∧
      ∀ g ∈ groupsTo ref groups, ∃ p, g.edges.countP p = edges.countP p ∧ 0 < edges.countP p := by
  cases h with
  | root => exact ⟨List.nil_subperm, nofun⟩
  | @node _ values i _ hid hvalues hi hgroups =>
    obtain ⟨-, -, -, hi, -⟩ := Model.inputsFrom_ok.1 hi
    obtain rfl := Except.ok.inj (hi.symm.trans hedges)
    obtain ⟨hperm, hgroup⟩ := Model.edgeGroups_edges hgroups ref
    refine ⟨hperm.subperm.trans List.filter_sublist.subperm, fun g hg => ?_⟩
    obtain ⟨hne, type, htyped⟩ := hgroup g hg
    refine ⟨fun e => e.ref = ref && e.type = type, ?_⟩
    have hcount : i.edges.countP (fun e => e.ref = ref && e.type = type) = g.edges.length := by
      rw [htyped, List.filter_filter, List.countP_eq_length_filter]
      simp only [Bool.and_comm]
    rw [hcount]
    refine ⟨List.countP_eq_length.2 fun e he => ?_, List.length_pos_iff.2 hne⟩
    rw [htyped] at he
    simp only [List.mem_filter, decide_eq_true_eq] at he
    simp [he.1.2, he.2]

/-- One number, or one for each edge: then no group repeats its edges. -/
theorem EdgeGroup.OneOrEach.not_repeats {g : EdgeGroup} (h : g.OneOrEach) : ¬ g.Repeats := by
  rintro ⟨entries, hentries, hlength, hmany⟩
  have hloose := (loose_sublist entries).length_le
  have hsplits := ((entries_ok h).1 hentries).edges
  obtain hone | heach := hsplits
  · have hcount := congrArg List.length hone
    simp only [List.length_map, List.length_singleton] at hcount hloose
    omega
  · exact hlength (by simpa using congrArg List.length heach)

/-- **What is drawn of a node** is drawn for its groups. -/
theorem Model.exists_drawsFrom {m : Model} {σ : Scenario} {id : String} {drawn : List DrawnEdge}
    (h : m.drawingOf σ id = .ok drawn) : ∃ groups s, m.DrawsFrom σ id groups s ∧
      (drawGroups id groups m.definition.display.edgeCombiner s).result = .ok drawn := by
  unfold Model.drawingOf at h
  split at h
  · rename_i hid
    subst hid
    obtain rfl := Except.ok.inj h
    exact ⟨[], {}, .root, rfl⟩
  · rename_i hid
    cases hvalues : (m.valuation σ).reading id with
    | error f =>
      rw [hvalues] at h
      cases h
    | ok values =>
      rw [hvalues] at h
      cases hi : m.inputsOf σ id with
      | error f =>
        rw [hi] at h
        cases h
      | ok i =>
        rw [hi] at h
        change (m.drawnEdges id i values).result = .ok drawn at h
        rw [Model.drawnEdges_eq] at h
        obtain ⟨groups, hgroups, hdrawn⟩ := Traced.result_bind_ok.1 h
        have hread : m.valuesOf σ id = .ok values := by rw [Model.valuesOf, if_neg hid, hvalues]
        exact ⟨groups, _, .node hid hread hi hgroups, Traced.result_mapError_ok.1 hdrawn⟩

/-- **A drawn edge may stand for an edge twice.** At the end of every run, the edges that are listed
by what is drawn of a node of an accepted definition, the root included, are at pairwise different
places among the edges of the node, unless a group of edges to the same ref repeats its edges; then
they are listed twice by the edge that all loose entries are drawn as, as long as it has a width. No
group does if each display setting has one number, or one for each edge. -/
theorem drawn_edges_repeat_iff {d : Definition} {m : Model} (h : d.accept = .ok m)
    (ops : List Operation) {id : String} {drawn : List DrawnEdge}
    (hedges : (m.read (.edges id) (m.run ops {})).result = .ok edges)
    (hdrawn : (m.read (.drawing id) (m.run ops {})).result = .ok drawn) :
    ∃ groups s, m.DrawsFrom (m.scenario (m.active ops)) id groups s ∧
      (∀ ref, (∃ e ∈ drawn, e.parent = ref ∧ ¬ AtDifferentPlaces edges e.edges) ↔
        (∃ g ∈ groupsTo ref groups, g.Repeats) ∧
          ∃ one, DrawnAsOne (groupsTo ref groups) d.display.edgeCombiner s one ∧ 0.0 < one.width) ∧
      ((∀ g ∈ groups, g.2.OneOrEach) → ∀ e ∈ drawn, AtDifferentPlaces edges e.edges) := by
  obtain ⟨hm, rfl⟩ := accepted_of_accept h
  obtain ⟨n, hn⟩ : ∃ n, m.node? id = some n := by
    cases hn : m.node? id with
    | some n => exact ⟨n, rfl⟩
    | none => cases (read_unknown rfl hn).symm.trans hedges
  rw [read_edges_run hm ops hn] at hedges
  rw [read_drawing_run hm ops hn] at hdrawn
  obtain ⟨groups, s, hfrom, hdrawn⟩ := Model.exists_drawsFrom hdrawn
  have hparts := Model.edges_of_drawsFrom hfrom hedges
  have hiff := drawGroups_repeats_iff (fun ref => (hparts ref).1) (fun ref => (hparts ref).2) hdrawn
  refine ⟨groups, s, hfrom, hiff, fun hone e he => ?_⟩
  by_contra hnot
  obtain ⟨⟨g, hg, hrepeats⟩, -⟩ := (hiff e.parent).1 ⟨e, he, rfl, hnot⟩
  exact (hone _ (mem_groupsTo hg)).not_repeats hrepeats

/-- A town with one pipe, which is drawn with two widths. -/
def pipedTown : Definition where
  properties := .ofList [("pipe", { name := "pipe", value := .literal [1.0] })]
  nodes := .ofList [("town", { edges := [{ type := "pipe" }] })]
  display := { edge := .ofList [("width", .literal [1.0, 2.0])] }

/-- What is drawn of the town is one edge to the root, which lists the one pipe twice. -/
theorem pipedTown_reads {m : Model} (h : pipedTown.accept = .ok m) :
    ∃ (edges : List ExpandedEdge) (drawn : List DrawnEdge),
      (m.read (.edges "town") (m.run [] {})).result = .ok edges ∧
      (m.read (.drawing "town") (m.run [] {})).result = .ok drawn ∧
      ∃ e ∈ drawn, e.parent = rootId ∧ ¬ AtDifferentPlaces edges e.edges := by
  have haccept : pipedTown.accept = .ok _ := rfl
  have hedges : (m.read (.edges "town") (m.run [] {})).result =
      .ok [{ source := "town", ref := rootId, type := "pipe" }] := by
    obtain rfl := Except.ok.inj (haccept.symm.trans h)
    rfl
  have hshape : Except.map (List.map fun e : DrawnEdge => (e.parent, e.edges.length))
      (m.read (.drawing "town") (m.run [] {})).result = .ok [(rootId, 2)] := by
    obtain rfl := Except.ok.inj (haccept.symm.trans h)
    decide +kernel
  obtain ⟨drawn, hdrawn, hmap⟩ := map_eq_ok.1 hshape
  obtain ⟨e, he, heq⟩ := List.mem_map.1 (hmap ▸ List.mem_singleton_self (rootId, 2))
  obtain ⟨hparent, hlength⟩ := Prod.mk.inj heq
  refine ⟨_, drawn, hedges, hdrawn, e, he, hparent, fun hplaces => ?_⟩
  have hcount := (atDifferentPlaces_iff.1 hplaces).length_le
  rw [hlength] at hcount
  simp at hcount

/-- A group of the town repeats its edges. -/
theorem drawn_edges_repeat_iff_town : ∃ m edges drawn, pipedTown.accept = .ok m ∧
    (m.read (.edges "town") (m.run [] {})).result = .ok edges ∧
    (m.read (.drawing "town") (m.run [] {})).result = .ok drawn ∧
    ∃ groups s, m.DrawsFrom (m.scenario defaultScenario) "town" groups s ∧
      (∃ g ∈ groupsTo rootId groups, g.Repeats) ∧
      ∃ one, DrawnAsOne (groupsTo rootId groups) ∅ s one ∧ 0.0 < one.width := by
  have h : pipedTown.accept = .ok _ := rfl
  obtain ⟨edges, drawn, hedges, hdrawn, hrepeat⟩ := pipedTown_reads h
  obtain ⟨groups, s, hfrom, hiff, -⟩ := drawn_edges_repeat_iff h [] hedges hdrawn
  exact ⟨_, edges, drawn, h, hedges, hdrawn, groups, s, hfrom, (hiff rootId).1 hrepeat⟩

/-- **The one pipe of a town is drawn twice** in one edge. -/
theorem pipe_drawn_twice : ∃ m, pipedTown.accept = .ok m ∧
    ∃ (edges : List ExpandedEdge) (drawn : List DrawnEdge),
      (m.read (.edges "town") (m.run [] {})).result = .ok edges ∧
      (m.read (.drawing "town") (m.run [] {})).result = .ok drawn ∧
      ∃ e ∈ drawn, e.parent = rootId ∧ ¬ AtDifferentPlaces edges e.edges := by
  have h : pipedTown.accept = .ok _ := rfl
  exact ⟨_, h, pipedTown_reads h⟩

end ValuedGraph
