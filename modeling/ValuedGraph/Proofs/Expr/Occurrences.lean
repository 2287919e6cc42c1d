import ValuedGraph.Proofs.Expr.Renaming
import ValuedGraph.Proofs.Expr.Walk

/-!
# Occurrences of sub-expressions

A place in an expression is the way down to it: which child to go to, which child of that one, and
so on. The walk lists what stands at the places of an expression, each place once: parents before
what is below them, and one child with all below it before the next one.

* `Expr.Unstacks`: runs of the walk until its stack is empty.
* `Expr.unstacks_iff`: **from every stack there is one run,** which lists the walks one after the
  other.
* `Expr.sub?`, `Expr.ListsPlaces`: what stands at a place, and lists of all places.
* `Expr.IsFieldOf`: the fields of the forms.
* `Expr.bare`: an expression without what is below it.
* `Expr.walk_lists_occurrences`: **the walk has every occurrence once.**
-/

namespace ValuedGraph

namespace Expr

variable {e c : Expr} {stack listed : List Expr}

/-! ## Runs -/

/-- **A run of the walk** from a stack, its top in front, to the empty one, with what it lists. Each
step takes the top off and puts its children there, the first one on top. -/
inductive Unstacks : List Expr → List Expr → Prop
  | done : Unstacks [] []
  | pop {e : Expr} {stack listed : List Expr} (rest : Unstacks (e.children ++ stack) listed) :
    Unstacks (e :: stack) (e :: listed)

/-- To walk along a stack is to list its top and walk along what takes its place. -/
theorem flatMap_walk_cons (e : Expr) (stack : List Expr) :
    (e :: stack).flatMap walk = e :: (e.children ++ stack).flatMap walk := by
  rw [List.flatMap_cons, walk_eq, List.cons_append, List.flatMap_append]

/-- **Every run comes to its end,** since each step leaves fewer expressions to come. -/
theorem unstacks_flatMap (stack : List Expr) : Unstacks stack (stack.flatMap walk) := by
  -- the children of the top are smaller than it, all together, so the sum of the sizes falls
  induction hn : (stack.map size).sum using Nat.strongRecOn generalizing stack with
  | ind n ih =>
    cases stack with
    | nil => exact .done
    | cons e stack =>
      rw [sum_size_cons] at hn
      rw [flatMap_walk_cons]
      exact .pop (ih _ (by omega) _ rfl)

/-- **There is one run** from a stack, which lists the walks of its members one after the other. -/
theorem unstacks_iff : Unstacks stack listed ↔ listed = stack.flatMap walk := by
  constructor
  · intro h
    induction h with
    | done => rfl
    | pop _ ih => rw [flatMap_walk_cons, ih]
  · rintro rfl
    exact unstacks_flatMap stack

/-! ## Places -/

/-- **What stands at a place,** if there is such a place. -/
def sub? : Expr → List ℕ → Option Expr
  | e, [] => some e
  | e, i :: place => e.children[i]?.bind fun c => c.sub? place

/-- **A list of all places of an expression,** each once and in their lexicographic order, at which
the members of its walk stand. -/
structure ListsPlaces (e : Expr) (places : List (List ℕ)) : Prop where
  ordered : places.Pairwise (· < ·)
  mem : ∀ place, place ∈ places ↔ (e.sub? place).isSome
  walked : places.map e.sub? = e.walk.map some

/-- The places below a list of children, from those below each child. -/
def placesBelow (placesOf : Expr → List (List ℕ)) (children : List Expr) : List (List ℕ) :=
  children.zipIdx.flatMap fun (c, i) => (placesOf c).map (i :: ·)

variable {placesOf : Expr → List (List ℕ)}

/-- A child with all below it comes before the next one. -/
theorem pairwise_placesBelow {children : List Expr}
    (h : ∀ c ∈ children, (placesOf c).Pairwise (· < ·)) :
    (placesBelow placesOf children).Pairwise (· < ·) := by
  have hindices : children.zipIdx.Pairwise fun a b => a.2 < b.2 := by
    rw [← List.pairwise_map, List.zipIdx_map_snd]
    exact List.pairwise_lt_range'
  refine List.pairwise_flatMap.2 ⟨fun (c, i) hc => ?_, hindices.imp fun {a b} hlt p hp q hq => ?_⟩
  · rw [List.pairwise_map]
    refine (h c (List.fst_mem_of_mem_zipIdx hc)).imp fun {p q} hpq => ?_
    exact List.cons_lt_cons_iff.2 (Or.inr ⟨rfl, hpq⟩)
  · obtain ⟨p, -, rfl⟩ := List.mem_map.1 hp
    obtain ⟨q, -, rfl⟩ := List.mem_map.1 hq
    exact List.cons_lt_cons_iff.2 (Or.inl hlt)

theorem mem_placesBelow {children : List Expr} {place : List ℕ} :
    place ∈ placesBelow placesOf children ↔
      ∃ i c p, children[i]? = some c ∧ p ∈ placesOf c ∧ place = i :: p := by
  unfold placesBelow
  simp only [List.mem_flatMap, List.mem_map, Prod.exists, List.mem_zipIdx_iff_getElem?]
  constructor
  · rintro ⟨c, i, hc, p, hp, rfl⟩
    exact ⟨i, c, p, hc, hp, rfl⟩
  · rintro ⟨i, c, p, hc, hp, rfl⟩
    exact ⟨c, i, hc, p, hp, rfl⟩

/-- At the places below the children stand the members of their walks. -/
theorem map_placesBelow (h : ∀ c ∈ e.children, (placesOf c).map c.sub? = c.walk.map some) :
    (placesBelow placesOf e.children).map e.sub? = (e.children.flatMap walk).map some := by
  have hchild : ∀ a ∈ e.children.zipIdx,
      ((placesOf a.1).map (a.2 :: ·)).map e.sub? = a.1.walk.map some := by
    rintro ⟨c, i⟩ hc
    have hget := List.mem_zipIdx_iff_getElem?.1 hc
    rw [← h c (List.fst_mem_of_mem_zipIdx hc), List.map_map]
    refine List.map_congr_left fun p _ => ?_
    simp only [Function.comp_apply, sub?, hget, Option.bind_some]
  unfold placesBelow
  rw [List.map_flatMap, List.flatMap_congr hchild, List.map_flatMap]
  conv_rhs => rw [← List.zipIdx_map_fst 0 e.children, List.flatMap_map]

/-- **Every expression has a list of its places.** -/
theorem exists_listsPlaces (e : Expr) : ∃ places, e.ListsPlaces places := by
  induction e using children_induction with
  | h e ih =>
    classical
    -- the place of the expression itself is the empty one, in front of all others
    choose! placesOf hplaces using ih
    refine ⟨[] :: placesBelow placesOf e.children, ?ordered, fun place => ?mem, ?walked⟩
    case ordered =>
      refine List.pairwise_cons.2 ⟨fun place hplace => ?_, ?_⟩
      · obtain ⟨i, c, p, -, -, rfl⟩ := mem_placesBelow.1 hplace
        exact List.nil_lt_cons i p
      · exact pairwise_placesBelow fun c hc => (hplaces c hc).ordered
    case mem =>
      cases place with
      | nil => simp [sub?]
      | cons i place =>
        simp only [List.mem_cons, reduceCtorEq, false_or, mem_placesBelow, List.cons.injEq, sub?,
          Option.isSome_bind, Option.any_eq_true]
        constructor
        · rintro ⟨i, c, p, hc, hp, rfl, rfl⟩
          exact ⟨c, hc, ((hplaces c (List.mem_of_getElem? hc)).mem _).1 hp⟩
        · rintro ⟨c, hc, hsome⟩
          have hp := ((hplaces c (List.mem_of_getElem? hc)).mem _).2 hsome
          exact ⟨i, c, place, hc, hp, rfl, rfl⟩
    case walked =>
      rw [walk_eq, List.map_cons, List.map_cons]
      rw [map_placesBelow fun c hc => (hplaces c hc).walked]
      rfl

/-! ## Fields -/

/-- **The expressions in the fields of a form,** an optional one if it is there. -/
def IsFieldOf (c : Expr) : Expr → Prop
  | literal _ | input | edgeConstant _ | parentValue _ | rootValue _ | resultValue _ => False
  | colorLiteral _ _ | hasTag _ _ | var _ => False
  | combine _ value | lengthOf _ value | log value _ => c = value
  | colorRGB red green blue alpha => c = red ∨ c = green ∨ c = blue ∨ alpha = some c
  | gradient progress start stop => c = progress ∨ c = start ∨ c = stop
  | arithmetic _ a b | compare _ a b => c = a ∨ c = b
  | unary _ a => c = a
  | choose condition yes no => c = condition ∨ c = yes ∨ c = no
  | filter condition value default => c = condition ∨ c = value ∨ default = some c
  | clip value low high => c = value ∨ low = some c ∨ high = some c
  | rangeNormalize value low high | percentDenormalize value low high =>
    c = value ∨ c = low ∨ c = high
  | collect items => c ∈ items
  | tagConstant _ _ default => default = some c
  | bind _ value block => c = value ∨ c = block

/-- **The children of an expression** are what its fields hold. -/
theorem mem_children_iff : c ∈ e.children ↔ c.IsFieldOf e := by
  cases e <;> simp [children, IsFieldOf]

/-- **An expression without what is below it:** in each field that holds an expression is the same
leaf. -/
def bare : Expr → Expr
  | combine c _ => combine c input
  | colorRGB _ _ _ alpha => colorRGB input input input (alpha.map fun _ => input)
  | gradient _ _ _ => gradient input input input
  | arithmetic op _ _ => arithmetic op input input
  | unary op _ => unary op input
  | compare c _ _ => compare c input input
  | choose _ _ _ => choose input input input
  | filter _ _ default => filter input input (default.map fun _ => input)
  | clip _ low high => clip input (low.map fun _ => input) (high.map fun _ => input)
  | rangeNormalize _ _ _ => rangeNormalize input input input
  | percentDenormalize _ _ _ => percentDenormalize input input input
  | collect items => collect (items.map fun _ => input)
  | lengthOf mode _ => lengthOf mode input
  | tagConstant name scope default => tagConstant name scope (default.map fun _ => input)
  | bind name _ _ => bind name input input
  | log _ label => log input label
  | e => e

/-- A reference to a property, with the property renamed, and every other expression as it is. -/
def renameReference (old new : String) : Expr → Expr
  | parentValue p => parentValue (if p = old then new else p)
  | rootValue p => rootValue (if p = old then new else p)
  | resultValue p => resultValue (if p = old then new else p)
  | e => e

/-- **A renamed expression differs in its own reference only,** apart from what is below it. -/
theorem bare_rename (old new : String) (e : Expr) :
    (e.rename old new).bare = renameReference old new e.bare := by
  cases e <;>
    simp [rename, bare, renameReference, renameOption_eq, renameList_eq, Function.comp_def]

/-! ## The walk -/

/-- **The walk lists every occurrence once.** Its only run comes to an end and lists the expression
and then the walks of its children from left to right, which are what the fields of its form hold,
each field on its own. So at the places of an expression, each taken once and in their lexicographic
order, stand the members of its walk. To rename a property changes the walk position by position, and
there the names of references only. -/
theorem walk_lists_occurrences (e : Expr) :
    (∀ listed, Unstacks [e] listed ↔ listed = e.walk) ∧
    e.walk = e :: e.children.flatMap walk ∧
    (∃ places : List (List ℕ), places.Pairwise (· < ·) ∧
      (∀ place, place ∈ places ↔ (e.sub? place).isSome) ∧ places.map e.sub? = e.walk.map some) ∧
    (∀ x ∈ e.walk, ∀ c, c ∈ x.children ↔ c.IsFieldOf x) ∧ e.walk = e.preorder ∧
    ∀ old new, (e.rename old new).walk = e.walk.map (rename old new) ∧
      (e.rename old new).walk.map bare = e.walk.map fun x => renameReference old new x.bare := by
  refine ⟨fun listed => ?_, walk_eq e, ?_, fun x _ c => mem_children_iff, walk_eq_preorder e,
    fun old new => ⟨walk_rename old new e, ?_⟩⟩
  · rw [unstacks_iff, List.flatMap_singleton]
  · obtain ⟨places, hplaces⟩ := exists_listsPlaces e
    exact ⟨places, hplaces.ordered, hplaces.mem, hplaces.walked⟩
  · rw [walk_rename, List.map_map]
    exact List.map_congr_left fun x _ => bare_rename old new x

end Expr

end ValuedGraph
