import Mathlib.Data.List.Chain
import Mathlib.Data.List.Perm.Subperm
import Mathlib.Logic.Relation
import ValuedGraph.Definition.Libraries
import ValuedGraph.Proofs.Failing
import ValuedGraph.Proofs.Graph.Order
import ValuedGraph.Proofs.Succeeding

/-!
# The order of imports

Libraries are visited along their imports and appended to an order on the way back. Whatever is
appended stands behind all it imports, so it is not on a cycle; and a visit that fails has followed
imports to a name that is unknown or was on its way already. The names on the way are distinct
libraries, so a visit is never deeper than there are libraries.

* `Libraries.Imports`, `Libraries.Reaches`: imports, and what a definition imports on any way.
* `Libraries.OrderOK`: **orders of known libraries, each once and behind all it imports.**
* `Libraries.extended_visit`, `Libraries.fails_visit_within`: what a visit appends, and why it fails.
* `Libraries.exists_importOrder_iff`: an order is found if all that is reached is known and on no
  cycle, and only then.
* `Libraries.importOrder_lists_or_rejects`: **orders of imports.**
-/

namespace ValuedGraph

open Relation

section Chains

variable {α : Type} {r : α → α → Prop} {l : List α} {a b : α}

/-- A chain leads from its first member to its last one. -/
theorem reflTransGen_of_isChain_snoc (h : (l ++ [b]).IsChain r) (ha : (l ++ [b]).head? = some a) :
    ReflTransGen r a b := by
  have hne : l ++ [b] ≠ [] := by simp
  have hpath := List.relationReflTransGen_of_exists_isChain (l ++ [b]) h hne
  rwa [Option.some.inj ((List.head?_eq_some_head hne).symm.trans ha), List.getLast_append_singleton]
    at hpath

/-- A chain of two members or more leads there by at least one step. -/
theorem transGen_of_isChain_snoc (h : (a :: (l ++ [b])).IsChain r) : TransGen r a b := by
  cases hl : l ++ [b] with
  | nil => simp at hl
  | cons c rest =>
    rw [hl] at h
    obtain ⟨hac, hrest⟩ := List.isChain_cons_cons.1 h
    rw [← hl] at hrest
    exact TransGen.head' hac (reflTransGen_of_isChain_snoc hrest (by rw [hl]; rfl))

end Chains

namespace Libraries

variable {libraries : Libraries} {imports names chain order order' : List String}
  {name start x y : String}

/-- **A library imports another one** if it lists its name. -/
def Imports (libraries : Libraries) (x y : String) : Prop :=
  ∃ library, libraries.get? x = some library ∧ y ∈ library.imports

/-- **What a definition imports,** on any way: the core library, what it lists, and whatever these
import. -/
def Reaches (libraries : Libraries) (imports : List String) (y : String) : Prop :=
  ∃ x ∈ coreName :: imports, ReflTransGen libraries.Imports x y

/-- **An order of libraries:** each is known, stands there once, and behind all it imports. -/
structure OrderOK (libraries : Libraries) (order : List String) : Prop where
  nodup : order.Nodup
  known : ∀ x ∈ order, x ∈ libraries
  behind : ∀ before x after, order = before ++ x :: after → ∀ y, libraries.Imports x y → y ∈ before

namespace OrderOK

theorem nil : libraries.OrderOK [] where
  nodup := List.nodup_nil
  known := by simp
  behind := by simp

/-- A library may be appended behind all it imports. -/
theorem snoc (h : libraries.OrderOK order) (hnew : x ∉ order) (hx : x ∈ libraries)
    (himports : ∀ y, libraries.Imports x y → y ∈ order) : libraries.OrderOK (order ++ [x]) where
  nodup := by
    refine List.nodup_append.2 ⟨h.nodup, by simp, fun a ha b hb hab => ?_⟩
    obtain rfl := List.mem_singleton.1 hb
    exact hnew (hab ▸ ha)
  known a ha := by
    rcases List.mem_append.1 ha with ha | ha
    · exact h.known a ha
    · exact List.mem_singleton.1 ha ▸ hx
  behind := forall_split_snoc h.behind himports

/-- **An order has all that its members import,** on any way. -/
theorem mem_of_reflTransGen (h : libraries.OrderOK order) (hx : x ∈ order)
    (hpath : ReflTransGen libraries.Imports x y) : y ∈ order := by
  induction hpath with
  | refl => exact hx
  | tail _ hyz ih =>
    obtain ⟨before, after, hsplit⟩ := List.append_of_mem ih
    rw [hsplit]
    exact List.mem_append_left _ (h.behind before _ after hsplit _ hyz)

/-- **No member of an order is on a cycle** of imports. -/
theorem not_transGen_self (h : libraries.OrderOK order) (hx : x ∈ order) :
    ¬ TransGen libraries.Imports x x := by
  -- along the order: what a member leads to is not on a cycle
  have key : ∀ x ∈ order, ∀ y, ReflTransGen libraries.Imports x y →
      ¬ TransGen libraries.Imports y y := by
    refine forall_mem_of_prefix fun before x after hsplit ih => ?_
    have hnext : ∀ z, libraries.Imports x z → ∀ y, ReflTransGen libraries.Imports z y →
        ¬ TransGen libraries.Imports y y := fun z hz => ih z (h.behind before x after hsplit z hz)
    intro y hpath hcycle
    rcases hpath.cases_head with rfl | ⟨z, hz, hpath⟩
    · obtain ⟨z, hz, hback⟩ := TransGen.head'_iff.1 hcycle
      exact hnext z hz x hback hcycle
    · exact hnext z hz y hpath hcycle
  exact key x hx x .refl

end OrderOK

/-- **What visits of some names do to an order:** the names and what they import are appended, but
nothing that is on the way already. -/
structure Extended (libraries : Libraries) (chain names order order' : List String) : Prop where
  ok : libraries.OrderOK order'
  mem : ∀ name ∈ names, name ∈ order'
  appended : ∃ new, order' = order ++ new ∧
    ∀ x ∈ new, x ∉ chain ∧ ∃ name ∈ names, ReflTransGen libraries.Imports name x

namespace Extended

theorem nil (h : libraries.OrderOK order) : libraries.Extended chain [] order order where
  ok := h
  mem := by simp
  appended := ⟨[], by simp⟩

/-- One visit after the other. -/
theorem cons {between : List String} (h : libraries.Extended chain [name] order between)
    (hrest : libraries.Extended chain names between order') :
    libraries.Extended chain (name :: names) order order' := by
  obtain ⟨new, rfl, hnew⟩ := h.appended
  obtain ⟨new', rfl, hnew'⟩ := hrest.appended
  refine ⟨hrest.ok, fun x hx => ?_, new ++ new', by simp, fun x hx => ?_⟩
  · rcases List.mem_cons.1 hx with rfl | hx
    · exact List.mem_append_left _ (h.mem x (by simp))
    · exact hrest.mem x hx
  · rcases List.mem_append.1 hx with hx | hx
    · obtain ⟨hchain, a, ha, hpath⟩ := hnew x hx
      exact ⟨hchain, a, by simp [List.mem_singleton.1 ha], hpath⟩
    · obtain ⟨hchain, a, ha, hpath⟩ := hnew' x hx
      exact ⟨hchain, a, by simp [ha], hpath⟩

/-- **A library goes behind all it imports.** It was on the way to them, so it is not there yet. -/
theorem snoc {library : Library} (hget : libraries.get? name = some library)
    (h : libraries.Extended (chain ++ [name]) library.imports order order') (hnew : name ∉ order)
    (hchain : name ∉ chain) : libraries.Extended chain [name] order (order' ++ [name]) := by
  obtain ⟨new, rfl, happended⟩ := h.appended
  have hnot : name ∉ order ++ new := by
    rw [List.mem_append, not_or]
    exact ⟨hnew, fun hm => (happended name hm).1 (by simp)⟩
  have himports : ∀ y, libraries.Imports name y → y ∈ order ++ new := by
    rintro y ⟨found, hfound, hy⟩
    obtain rfl : library = found := Option.some.inj (hget.symm.trans hfound)
    exact h.mem y hy
  refine ⟨h.ok.snoc hnot (Table.mem_of_get? hget) himports, by simp, new ++ [name], by simp, ?_⟩
  intro x hx
  rcases List.mem_append.1 hx with hx | hx
  · obtain ⟨hxchain, y, hy, hpath⟩ := happended x hx
    have hstep : libraries.Imports name y := ⟨library, hget, hy⟩
    exact ⟨fun hm => hxchain (by simp [hm]), name, by simp, hpath.head hstep⟩
  · obtain rfl := List.mem_singleton.1 hx
    exact ⟨hchain, x, by simp, .refl⟩

/-- Visits along a list, if each of them is as it should be. -/
theorem foldlM {step : List String → String → Except DefinitionError (List String)}
    (hstep : ∀ {name order order'}, libraries.OrderOK order → step order name = .ok order' →
      libraries.Extended chain [name] order order')
    (horder : libraries.OrderOK order) (h : names.foldlM step order = .ok order') :
    libraries.Extended chain names order order' := by
  induction names generalizing order with
  | nil =>
    obtain rfl : order = order' := Except.ok.inj h
    exact nil horder
  | cons name names ih =>
    obtain ⟨between, hfirst, hrest⟩ := foldlM_cons_ok.1 h
    have hextended := hstep horder hfirst
    exact hextended.cons (ih hextended.ok hrest)

end Extended

/-- **What a visit appends.** -/
theorem extended_visit {fuel : ℕ} (horder : libraries.OrderOK order)
    (h : libraries.visit fuel chain order name = .ok order') :
    libraries.Extended chain [name] order order' := by
  induction fuel using Nat.strongRecOn generalizing chain order name order' with
  | ind fuel ih =>
    unfold visit at h
    split at h
    · -- what is in the order already needs no visit
      rename_i hmem
      obtain rfl : order = order' := Except.ok.inj h
      refine ⟨horder, fun x hx => ?_, [], by simp⟩
      simpa [List.mem_singleton.1 hx] using hmem
    rename_i hnew
    split at h
    · cases h
    rename_i hchain
    split at h
    · cases h
    · cases h
    rename_i library fuel hget
    obtain ⟨between, hfold, h⟩ := ok_of_bind h
    obtain rfl : between ++ [name] = order' := Except.ok.inj h
    have hbelow := Extended.foldlM (fun ho hv => ih fuel (by omega) ho hv) horder hfold
    exact Extended.snoc hget hbelow (by simpa using hnew) (by simpa using hchain)

/-- **Why imports that start with a name are rejected:** they lead to a name that is unknown, or back
to a name that they passed. The names on the way to it are in the error. -/
def Blocked (libraries : Libraries) (start : String) : DefinitionError → Prop
  | .unknownLibrary x => x ∉ libraries ∧ ReflTransGen libraries.Imports start x
  | .importCycle path => path.head? = some start ∧ path.IsChain libraries.Imports ∧
      ∃ before x, path = before ++ [x] ∧ x ∈ before
  | _ => False

/-- **The way of a visit:** distinct libraries, each of which imports the next one, and the last of
them the name that is visited. -/
structure Way (libraries : Libraries) (start : String) (chain : List String) (name : String) :
    Prop where
  head : (chain ++ [name]).head? = some start
  linked : (chain ++ [name]).IsChain libraries.Imports
  nodup : chain.Nodup
  known : ∀ x ∈ chain, x ∈ libraries

namespace Way

/-- A visit starts with its name. -/
theorem nil (libraries : Libraries) (name : String) : libraries.Way name [] name where
  head := rfl
  linked := by simp
  nodup := List.nodup_nil
  known := by simp

theorem reflTransGen (h : libraries.Way start chain name) :
    ReflTransGen libraries.Imports start name := reflTransGen_of_isChain_snoc h.linked h.head

/-- **One import further.** -/
theorem snoc (h : libraries.Way start chain name) (hchain : name ∉ chain)
    (hxy : libraries.Imports name y) : libraries.Way start (chain ++ [name]) y where
  head := by rw [List.head?_append, h.head, Option.some_or]
  linked := by
    refine List.isChain_append.2 ⟨h.linked, by simp, fun a ha b hb => ?_⟩
    obtain rfl : name = a := by simpa using ha
    obtain rfl : y = b := by simpa using hb
    exact hxy
  nodup := by
    refine List.nodup_append.2 ⟨h.nodup, by simp, fun a ha b hb hab => ?_⟩
    obtain rfl := List.mem_singleton.1 hb
    exact hchain (hab ▸ ha)
  known x hx := by
    rcases List.mem_append.1 hx with hx | hx
    · exact h.known x hx
    · obtain ⟨library, hlibrary, -⟩ := hxy
      exact List.mem_singleton.1 hx ▸ Table.mem_of_get? hlibrary

/-- **A way is not longer than there are libraries.** -/
theorem length_le (h : libraries.Way start chain name) : chain.length ≤ libraries.size := by
  have hsub : chain ⊆ libraries.keys := h.known
  have hle := (h.nodup.subperm hsub).length_le
  rwa [Table.keys, List.length_map] at hle

/-- **A name that is on the way already** closes a cycle. -/
theorem blocked (h : libraries.Way start chain name) (hchain : name ∈ chain) :
    libraries.Blocked start (.importCycle (chain ++ [name])) :=
  ⟨h.head, h.linked, chain, name, rfl, hchain⟩

end Way

/-- **Why a visit fails.** With fuel for all libraries, it is not for lack of fuel. -/
theorem fails_visit_within {fuel : ℕ} (hway : libraries.Way start chain name)
    (hfuel : libraries.size < chain.length + fuel) :
    OnlyFails (libraries.Blocked start) (libraries.visit fuel chain order name) := by
  induction fuel using Nat.strongRecOn generalizing chain order name with
  | ind fuel ih =>
    unfold visit
    refine OnlyFails.ite (fun _ => OnlyFails.ok _) fun _ => ?_
    refine OnlyFails.ite (fun hchain => ?_) fun hchain => ?_
    · exact OnlyFails.error (hway.blocked (by simpa using hchain))
    have hchain : name ∉ chain := by simpa using hchain
    split
    · rename_i hnone
      exact OnlyFails.error ⟨Table.get?_eq_none_iff.1 hnone, hway.reflTransGen⟩
    · exact absurd hway.length_le (by omega)
    · rename_i library fuel hget
      refine OnlyFails.bind (OnlyFails.foldlM (fun order imported himported => ?_) order)
        fun _ _ => OnlyFails.pure _
      refine ih fuel (by omega) (hway.snoc hchain ⟨library, hget, himported⟩) ?_
      rw [List.length_append, List.length_singleton]
      omega

/-- **An order of imports** is one, and has all that is reached. -/
theorem extended_importOrder (h : libraries.importOrder imports = .ok order) :
    libraries.Extended [] (coreName :: imports) [] order :=
  Extended.foldlM extended_visit OrderOK.nil h

theorem mem_importOrder (h : libraries.importOrder imports = .ok order) :
    x ∈ order ↔ libraries.Reaches imports x := by
  have hextended := extended_importOrder h
  constructor
  · intro hx
    obtain ⟨new, rfl, hnew⟩ := hextended.appended
    exact (hnew x hx).2
  · rintro ⟨start, hstart, hpath⟩
    exact hextended.ok.mem_of_reflTransGen (hextended.mem start hstart) hpath

/-- **Why no order is found.** -/
theorem fails_importOrder (libraries : Libraries) (imports : List String) :
    OnlyFails (fun e => ∃ start ∈ coreName :: imports, libraries.Blocked start e)
      (libraries.importOrder imports) := by
  refine OnlyFails.foldlM (fun order start hstart e he => ⟨start, hstart, ?_⟩) []
  exact fails_visit_within (Way.nil libraries start) (by simp) e he

/-- An error names something that is reached and is unknown or on a cycle. -/
theorem Blocked.exists_reached {e : DefinitionError} (h : libraries.Blocked start e) :
    ∃ x, ReflTransGen libraries.Imports start x ∧
      (x ∉ libraries ∨ TransGen libraries.Imports x x) := by
  cases e <;> try exact h.elim
  case unknownLibrary x => exact ⟨x, h.2, Or.inl h.1⟩
  case importCycle path =>
    obtain ⟨hhead, hlinked, before, x, rfl, hx⟩ := h
    obtain ⟨front, back, rfl⟩ := List.append_of_mem hx
    -- from the start to the name, and from there back to it
    have hway : front ++ x :: back ++ [x] = (front ++ [x]) ++ (back ++ [x]) := by simp
    have hback : front ++ x :: back ++ [x] = front ++ (x :: (back ++ [x])) := by simp
    have hfirst : (front ++ [x]).head? = some start := by
      rw [hway, List.head?_append] at hhead
      simpa using hhead
    have hto : (front ++ [x]).IsChain libraries.Imports :=
      (List.isChain_append.1 (hway ▸ hlinked)).1
    have haround : (x :: (back ++ [x])).IsChain libraries.Imports :=
      (List.isChain_append.1 (hback ▸ hlinked)).2.1
    exact ⟨x, reflTransGen_of_isChain_snoc hto hfirst, Or.inr (transGen_of_isChain_snoc haround)⟩

/-- **An order is found** if all that is reached is known and on no cycle, and only then. -/
theorem exists_importOrder_iff : (∃ order, libraries.importOrder imports = .ok order) ↔
    ∀ x, libraries.Reaches imports x → x ∈ libraries ∧ ¬ TransGen libraries.Imports x x := by
  constructor
  · rintro ⟨order, h⟩ x hx
    have hok := (extended_importOrder h).ok
    have hmem := (mem_importOrder h).2 hx
    exact ⟨hok.known x hmem, hok.not_transGen_self hmem⟩
  · intro h
    cases hres : libraries.importOrder imports with
    | ok order => exact ⟨order, rfl⟩
    | error e =>
      obtain ⟨start, hstart, hblocked⟩ := fails_importOrder libraries imports e hres
      obtain ⟨x, hpath, hx⟩ := hblocked.exists_reached
      obtain ⟨hknown, hcycle⟩ := h x ⟨start, hstart, hpath⟩
      exact absurd hx (by simp [hknown, hcycle])

/-- **A core library without imports comes first.** -/
theorem head?_importOrder (hcore : ∀ y, ¬ libraries.Imports coreName y)
    (h : libraries.importOrder imports = .ok order) : order.head? = some coreName := by
  obtain ⟨front, hfirst, hrest⟩ := foldlM_cons_ok.1 h
  have hfront := extended_visit OrderOK.nil hfirst
  obtain ⟨rest, rfl, -⟩ := (Extended.foldlM extended_visit hfront.ok hrest).appended
  obtain ⟨new, hnew, happended⟩ := hfront.appended
  obtain rfl : front = new := hnew
  -- in front are only libraries that the core library leads to, which is itself alone
  have hself : ∀ x ∈ front, x = coreName := by
    intro x hx
    obtain ⟨-, start, hstart, hpath⟩ := happended x hx
    obtain rfl := List.mem_singleton.1 hstart
    rcases hpath.cases_head with rfl | ⟨y, hy, -⟩
    · rfl
    · exact absurd hy (hcore y)
  cases front with
  | nil => exact absurd (hfront.mem coreName (by simp)) (by simp)
  | cons x front => simp [hself x (by simp)]

/-- **Importing once more what is imported already** changes nothing. -/
theorem importOrder_append (h : libraries.importOrder imports = .ok order) (hx : x ∈ order) :
    libraries.importOrder (imports ++ [x]) = .ok order := by
  have hvisit : libraries.visit (libraries.size + 1) [] order x = .ok order := by
    unfold visit
    rw [if_pos (by simpa using hx)]
  have hone : [x].foldlM (libraries.visit (libraries.size + 1) []) order = .ok order :=
    foldlM_cons_ok.2 ⟨order, hvisit, rfl⟩
  rw [importOrder, ← List.cons_append, List.foldlM_append]
  exact (bind_of_ok h _).trans hone

/-- **Orders of imports.** An order is found if every library that is reached from the core library
and from the imports is known and imports itself on no way, and only then; otherwise the error names
an unknown library, or the imports that lead to a cycle and around it. An order has exactly the
libraries that are reached, each once and behind all it imports, the core library first if that
imports nothing; and importing one of them once more changes nothing. -/
theorem importOrder_lists_or_rejects (libraries : Libraries) (imports : List String) :
    ((∃ order, libraries.importOrder imports = .ok order) ↔
      ∀ x, libraries.Reaches imports x → x ∈ libraries ∧ ¬ TransGen libraries.Imports x x) ∧
    (∀ e, libraries.importOrder imports = .error e →
      ∃ start ∈ coreName :: imports, libraries.Blocked start e) ∧
    ∀ order, libraries.importOrder imports = .ok order →
      order.Nodup ∧ (∀ x, x ∈ order ↔ libraries.Reaches imports x) ∧
      (∀ before x after, order = before ++ x :: after →
        ∀ y, libraries.Imports x y → y ∈ before) ∧
      ((∀ y, ¬ libraries.Imports coreName y) → order.head? = some coreName) ∧
      ∀ x ∈ order, libraries.importOrder (imports ++ [x]) = .ok order := by
  refine ⟨exists_importOrder_iff, fails_importOrder libraries imports, fun order h => ?_⟩
  have hok := (extended_importOrder h).ok
  refine ⟨hok.nodup, fun x => mem_importOrder h, hok.behind, ?_, ?_⟩
  · exact fun hcore => head?_importOrder hcore h
  · exact fun x hx => importOrder_append h hx

/-- A library with nothing but imports. -/
def importing (names : List String) : Library := { description := "", imports := names, bundle := {} }

/-- A flood that comes from rivers and rain, both of which import water, and an eddy. -/
def waters : Libraries := .ofList [
  (coreName, core), ("flood", importing ["river", "rain"]), ("river", importing ["water"]),
  ("rain", importing ["water"]), ("water", importing []), ("eddy", importing ["water", "swirl"]),
  ("swirl", importing ["eddy"])]

/-- The flood has an order, and the eddy is rejected. -/
theorem importOrder_lists_or_rejects_waters :
    (∃ order, waters.importOrder ["flood"] = .ok order ∧ order.Nodup ∧
        (∀ x, x ∈ order ↔ waters.Reaches ["flood"] x) ∧
        (∀ before x after, order = before ++ x :: after →
          ∀ y, waters.Imports x y → y ∈ before) ∧
        order.head? = some coreName ∧
        waters.importOrder (["flood"] ++ ["rain"]) = .ok order) ∧
      ∃ e, waters.importOrder ["eddy"] = .error e ∧
        ∃ start ∈ [coreName, "eddy"], waters.Blocked start e := by
  have hflood : waters.importOrder ["flood"] =
      .ok [coreName, "water", "river", "rain", "flood"] := rfl
  have heddy : waters.importOrder ["eddy"] =
      .error (.importCycle ["eddy", "swirl", "eddy"]) := rfl
  have hcore : ∀ y, ¬ waters.Imports coreName y := by
    rintro y ⟨library, hlibrary, hy⟩
    obtain rfl : core = library := Option.some.inj hlibrary
    cases hy
  obtain ⟨hnd, hmem, hbehind, hhead, hagain⟩ :=
    (importOrder_lists_or_rejects waters ["flood"]).2.2 _ hflood
  refine ⟨⟨_, hflood, hnd, hmem, hbehind, hhead hcore, hagain "rain" (by simp)⟩, _, heddy, ?_⟩
  exact (importOrder_lists_or_rejects waters ["eddy"]).2.1 _ heddy

end Libraries

end ValuedGraph
