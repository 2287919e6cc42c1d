import ValuedGraph.Proofs.Definition.Merging

/-!
# The place of the core library

The core library is visited before all that a definition imports. So in an order of imports it only
stands behind what it imports itself, and of these libraries alone it overwrites entries. The
standard one imports nothing and comes first, but a set of libraries may have another one in its
place.

* `Libraries.get?_build`: the core library of a set is the standard one unless it is replaced.
* `Libraries.exists_front`: **in front of the core library** stands what it imports, on any way.
* `Libraries.head?_importOrder_iff`: it comes first if it imports nothing, and only then.
* `Libraries.get?_mergeBundles`: which of the libraries an entry is from.
* `Libraries.core_follows_its_imports`: **the place of the core library.**
-/

namespace ValuedGraph

open Relation

/-- **Overlaid tables, seen from one of them:** those over it are asked first, and those under it
last. -/
theorem Table.get?_foldl_overlay_split {α : Type} (lower : List (Table α)) (t : Table α)
    (upper : List (Table α)) (k : String) :
    ((lower ++ t :: upper).foldl overlay ∅).get? k =
      ((upper.foldl overlay ∅).get? k).or ((t.get? k).or ((lower.foldl overlay ∅).get? k)) := by
  induction upper using List.reverseRecOn with
  | nil =>
    rw [List.foldl_concat, get?_overlay]
    rfl
  | append_singleton upper u ih =>
    rw [← List.cons_append, ← List.append_assoc, List.foldl_concat, List.foldl_concat, get?_overlay,
      get?_overlay, ih, Option.or_assoc]

namespace Libraries

variable {libraries libraries' : Libraries} {imports order before after : List String} {x y : String}

/-! ## Sets of libraries -/

/-- The libraries of an object only replace those with their names. -/
theorem get?_add {object : List (String × Value)} (h : libraries.add object = .ok libraries')
    (hx : x ∉ object.map Prod.fst) : libraries'.get? x = libraries.get? x := by
  induction object generalizing libraries with
  | nil =>
    obtain rfl := Except.ok.inj h
    rfl
  | cons entry object ih =>
    obtain ⟨name, v⟩ := entry
    rw [List.map_cons, List.mem_cons, not_or] at hx
    unfold add at h
    split at h
    · rw [ih h hx.2, Table.get?_insert_of_ne _ _ hx.1]
    · cases h

theorem get?_foldlM_add {objects : List (List (String × Value))}
    (h : objects.foldlM add libraries = .ok libraries')
    (hx : ∀ object ∈ objects, x ∉ object.map Prod.fst) :
    libraries'.get? x = libraries.get? x := by
  induction objects generalizing libraries with
  | nil =>
    obtain rfl := Except.ok.inj h
    rfl
  | cons object objects ih =>
    obtain ⟨between, hfirst, hrest⟩ := foldlM_cons_ok.1 h
    rw [ih hrest fun o ho => hx o (by simp [ho]), get?_add hfirst (hx object (by simp))]

/-- **The core library of a set** is the standard one, unless a library with its name is given. -/
theorem get?_build {objects : List (List (String × Value))} (h : build objects = .ok libraries)
    (hcore : ∀ object ∈ objects, coreName ∉ object.map Prod.fst) :
    libraries.get? coreName = some core := get?_foldlM_add h hcore

/-! ## Orders -/

/-- **Whatever a member of an order imports, on any way, stands in front of it.** -/
theorem OrderOK.mem_of_transGen (h : libraries.OrderOK order) (hsplit : order = before ++ x :: after)
    (hpath : TransGen libraries.Imports x y) : y ∈ before := by
  induction hpath with
  | single hxy => exact h.behind before x after hsplit _ hxy
  | @tail y z _ hyz ih =>
    obtain ⟨front, back, rfl⟩ := List.append_of_mem ih
    have hsplit' : order = front ++ y :: (back ++ x :: after) := by simp [hsplit]
    exact List.mem_append_left _ (h.behind front y _ hsplit' z hyz)

/-- **In front of the core library** stands what it imports, on any way, and nothing else. -/
theorem exists_front (h : libraries.importOrder imports = .ok order) :
    ∃ front rest, order = front ++ coreName :: rest ∧
      ∀ x, x ∈ front ↔ TransGen libraries.Imports coreName x := by
  obtain ⟨first, hfirst, hrest⟩ := foldlM_cons_ok.1 h
  have hextended := extended_visit OrderOK.nil hfirst
  obtain ⟨new, rfl, -⟩ := (Extended.foldlM extended_visit hextended.ok hrest).appended
  have hreached : ∀ x ∈ first, ReflTransGen libraries.Imports coreName x := by
    obtain ⟨own, hown, happended⟩ := hextended.appended
    obtain rfl : first = own := hown
    intro x hx
    obtain ⟨-, start, hstart, hpath⟩ := happended x hx
    rwa [List.mem_singleton.1 hstart] at hpath
  obtain ⟨front, back, rfl⟩ := List.append_of_mem (hextended.mem coreName (by simp))
  have hnodup := hextended.ok.nodup
  rw [List.nodup_append, List.nodup_cons] at hnodup
  obtain ⟨-, ⟨hback, -⟩, hdisjoint⟩ := hnodup
  -- what the first visit appends is the core library, or reached from it by an import
  have hbelow : ∀ x ∈ front ++ coreName :: back, x ≠ coreName →
      TransGen libraries.Imports coreName x := by
    intro x hx hne
    exact (reflTransGen_iff_eq_or_transGen.1 (hreached x hx)).resolve_left hne
  have hfront : ∀ x, TransGen libraries.Imports coreName x → x ∈ front :=
    fun x => hextended.ok.mem_of_transGen rfl
  refine ⟨front, back ++ new, by simp, fun x => ⟨fun hx => ?_, hfront x⟩⟩
  exact hbelow x (by simp [hx]) (hdisjoint x hx coreName (by simp))

/-- **The core library comes first** if it imports nothing, and only then. -/
theorem head?_importOrder_iff (h : libraries.importOrder imports = .ok order) :
    order.head? = some coreName ↔ ∀ y, ¬ libraries.Imports coreName y := by
  refine ⟨fun hhead y hy => ?_, fun hcore => head?_importOrder hcore h⟩
  obtain ⟨front, rest, rfl, hfront⟩ := exists_front h
  have hmem := (hfront y).2 (.single hy)
  cases front with
  | nil => cases hmem
  | cons x front =>
    -- the first one is what the core library leads to, so it would be on a cycle
    obtain rfl : x = coreName := by simpa using hhead
    have hcycle := (hfront coreName).1 (by simp)
    exact (extended_importOrder h).ok.not_transGen_self (by simp) hcycle

/-! ## Entries -/

section Entries

variable {α : Type} (kind : Bundle → Table α) (hempty : kind {} = ∅)
  (hkind : ∀ a b, kind (a.overlay b) = (kind a).overlay (kind b))
include hempty hkind

/-- The entries of one kind of merged bundles. -/
theorem kind_mergeBundles (names : List String) (last : Bundle) :
    kind (mergeBundles libraries names last) =
      (((names.filterMap libraries.get?).map fun library => kind library.bundle) ++
        [kind last]).foldl Table.overlay ∅ := by
  unfold mergeBundles
  rw [Bundle.foldl_overlay kind hempty hkind, List.map_append, List.map_map]
  rfl

/-- **Which library an entry is from,** seen from one of them: from those merged behind it if these
have one, else from itself, else from those merged before it. -/
theorem get?_mergeBundles {library : Library} (hlibrary : libraries.get? x = some library)
    (last : Bundle) (k : String) :
    (kind (mergeBundles libraries (before ++ x :: after) last)).get? k =
      ((kind (mergeBundles libraries after last)).get? k).or
        (((kind library.bundle).get? k).or
          ((kind (mergeBundles libraries before {})).get? k)) := by
  have hbefore : (kind (mergeBundles libraries before {})).get? k =
      (((before.filterMap libraries.get?).map fun library => kind library.bundle).foldl
        Table.overlay ∅).get? k := by
    rw [kind_mergeBundles kind hempty hkind, hempty, Table.get?_foldl_overlay_split]
    rfl
  rw [hbefore, kind_mergeBundles kind hempty hkind, kind_mergeBundles kind hempty hkind,
    List.filterMap_append, List.filterMap_cons_some hlibrary, List.map_append, List.map_cons,
    List.append_assoc, List.cons_append, Table.get?_foldl_overlay_split]

end Entries

/-- **The core library follows what it imports, and nothing else.** In an order of imports, in front
of it stand exactly the libraries that it imports itself, on any way. So it comes first if it imports
nothing, as the standard one does, and only then. An entry is from the libraries behind it and from
the definition if these have one, else from the core library, else from those in front of it: it only
overwrites entries of libraries that it imports. -/
theorem core_follows_its_imports {objects : List (List (String × Value))}
    (hbuild : build objects = .ok libraries) (horder : libraries.importOrder imports = .ok order) :
    (order.head? = some coreName ↔ ∀ y, ¬ libraries.Imports coreName y) ∧
    ((∀ object ∈ objects, coreName ∉ object.map Prod.fst) → order.head? = some coreName) ∧
    ∃ front base rest, order = front ++ coreName :: rest ∧
      (∀ x, x ∈ front ↔ TransGen libraries.Imports coreName x) ∧
      libraries.get? coreName = some base ∧
      ∀ {α : Type} (kind : Bundle → Table α), kind {} = ∅ →
        (∀ a b, kind (a.overlay b) = (kind a).overlay (kind b)) → ∀ last k,
          (kind (mergeBundles libraries order last)).get? k =
            ((kind (mergeBundles libraries rest last)).get? k).or
              (((kind base.bundle).get? k).or ((kind (mergeBundles libraries front {})).get? k)) := by
  refine ⟨head?_importOrder_iff horder, fun hcore => ?_, ?_⟩
  · rw [head?_importOrder_iff horder]
    rintro y ⟨library, hlibrary, hy⟩
    obtain rfl : core = library := Option.some.inj ((get?_build hbuild hcore).symm.trans hlibrary)
    cases hy
  · obtain ⟨front, rest, rfl, hfront⟩ := exists_front horder
    obtain ⟨base, hbase⟩ := Table.exists_get?
      ((extended_importOrder horder).ok.known coreName (by simp))
    exact ⟨front, base, rest, rfl, hfront, hbase, fun kind hempty hkind last k =>
      get?_mergeBundles kind hempty hkind hbase last k⟩

/-- Paint with a radius, a core library that imports it and has another one, and a river. -/
def paintedObjects : List (List (String × Value)) :=
  [[("core", .object [("imports", .list [.text "paint"]),
      ("display", .object [("node", .object [("radius", .int 6)])])]),
    ("paint", .object [("display", .object [("node", .object [("radius", .int 9),
      ("opacity", .int 1)])])]),
    ("river", .object [("display", .object [("node", .object [("opacity", .int 0)])])])]]

/-- The libraries of these objects. -/
def painted : Libraries :=
  match build paintedObjects with
  | .ok libraries => libraries
  | .error _ => ∅

/-- **The core library is not the first one here,** and its radius overwrites that of paint. -/
theorem paint_before_core :
    build paintedObjects = .ok painted ∧ painted.importOrder ["paint"] = .ok ["paint", "core"] ∧
      ["paint", "core"].head? ≠ some coreName ∧
      (mergeBundles painted ["paint", "core"] {}).display.node.get? "radius" = some (.int 6) ∧
      (mergeBundles painted ["core", "paint"] {}).display.node.get? "radius" = some (.int 9) :=
  ⟨rfl, rfl, by decide, rfl, rfl⟩

/-- With paint in front of it, the core library has its own radius, and the opacity is that of the
river, which stands behind both. -/
theorem core_follows_its_imports_paint :
    build paintedObjects = .ok painted ∧
      painted.importOrder ["river"] = .ok ["paint", "core", "river"] ∧
      ∃ front base rest, ["paint", "core", "river"] = front ++ coreName :: rest ∧
      (∀ x, x ∈ front ↔ TransGen painted.Imports coreName x) ∧
      painted.get? coreName = some base ∧
      ∀ k, (mergeBundles painted ["paint", "core", "river"] {}).display.node.get? k =
        ((mergeBundles painted rest {}).display.node.get? k).or
          ((base.bundle.display.node.get? k).or
            ((mergeBundles painted front {}).display.node.get? k)) := by
  have hbuild : build paintedObjects = .ok painted := rfl
  have horder : painted.importOrder ["river"] = .ok ["paint", "core", "river"] := rfl
  obtain ⟨-, -, front, base, rest, hsplit, hfront, hbase, hentries⟩ :=
    core_follows_its_imports hbuild horder
  exact ⟨hbuild, horder, front, base, rest, hsplit, hfront, hbase,
    fun k => hentries (fun b => b.display.node) rfl (fun _ _ => rfl) {} k⟩

end Libraries

end ValuedGraph
