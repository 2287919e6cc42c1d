import Mathlib.Data.List.Induction
import ValuedGraph.Definition.Basic

/-!
# Edits of scenarios

An edit gives one value of one node an override, or takes it away. Whatever is edited, in whatever
order, all other overrides stay, and what becomes of one is told by the last edit of its place. A
node whose last override goes leaves the overlay, so a scenario tells by its nodes alone whether it
overrides a value of the root.

* `Scenario.Edit`, `Scenario.edited`: **edits,** one after the other.
* `Scenario.get?_overrides_edit`: **one edit touches one override.**
* `Scenario.Tidy`: no node is in the overlay without overrides.
* `Scenario.withoutOverride_withOverride`: a new override that is taken away again.
* `Scenario.edits_touch_one_override`: **edits of a scenario,** all together.
-/

namespace ValuedGraph

namespace Scenario

/-- **One edit** of a scenario: an override that is given, or withdrawn. -/
inductive Edit where
  | give (node property : String) (value : Expr)
  | withdraw (node property : String)

namespace Edit

/-- The node that is edited. -/
def node : Edit → String
  | give node _ _ | withdraw node _ => node

/-- The property whose override is edited. -/
def property : Edit → String
  | give _ property _ | withdraw _ property => property

/-- The override that an edit leaves, if it leaves one. -/
def value? : Edit → Option Expr
  | give _ _ value => some value
  | withdraw _ _ => none

end Edit

/-- A scenario after an edit. -/
def edit (s : Scenario) : Edit → Scenario
  | .give node property value => s.withOverride node property value
  | .withdraw node property => s.withoutOverride node property

/-- **A scenario after edits,** one after the other. -/
def edited (s : Scenario) (edits : List Edit) : Scenario := edits.foldl edit s

/-- **What edits leave of an override:** what the last edit of its place leaves, or what was there
before all edits. -/
def left? (s : Scenario) (edits : List Edit) (node property : String) : Option Expr :=
  match edits.reverse.find? fun e => e.node = node ∧ e.property = property with
  | some e => e.value?
  | none => (s.overrides node).get? property

/-- **A scenario whose nodes all have overrides.** -/
def Tidy (s : Scenario) : Prop := ∀ node, s.overlay.get? node ≠ some ∅

variable {s : Scenario} {node property k j : String} {value : Expr} {e : Edit} {edits : List Edit}

/-! ## One edit -/

/-- The overrides of a node in an overlay that was written for one node. -/
theorem getD_insert (o : Overlay) (node k : String) (t : Table Expr) :
    (o.insert node t).getD k ∅ = if k = node then t else o.getD k ∅ := by
  rw [Table.getD, Table.get?_insert]
  split <;> rfl

theorem getD_erase (o : Overlay) (node k : String) :
    (o.erase node).getD k ∅ = if k = node then ∅ else o.getD k ∅ := by
  rw [Table.getD, Table.get?_erase]
  split <;> rfl

theorem overrides_withOverride : (s.withOverride node property value).overrides k =
    if k = node then (s.overrides node).insert property value else s.overrides k :=
  getD_insert _ _ _ _

/-- A node that leaves the overlay has no overrides, like one whose last override goes. -/
theorem overrides_withoutOverride : (s.withoutOverride node property).overrides k =
    if k = node then (s.overrides node).erase property else s.overrides k := by
  unfold withoutOverride overrides
  dsimp only
  split
  · rename_i hempty
    rw [getD_erase, Table.isEmpty_iff.1 hempty]
  · exact getD_insert _ _ _ _

theorem get?_overrides_withOverride : ((s.withOverride node property value).overrides k).get? j =
    if k = node ∧ j = property then some value else (s.overrides k).get? j := by
  rw [overrides_withOverride]
  by_cases hk : k = node
  · simp [hk, Table.get?_insert]
  · simp [hk]

theorem get?_overrides_withoutOverride : ((s.withoutOverride node property).overrides k).get? j =
    if k = node ∧ j = property then none else (s.overrides k).get? j := by
  rw [overrides_withoutOverride]
  by_cases hk : k = node
  · simp [hk, Table.get?_erase]
  · simp [hk]

/-- **One edit touches one override.** -/
theorem get?_overrides_edit (s : Scenario) (e : Edit) (k j : String) :
    ((s.edit e).overrides k).get? j =
      if k = e.node ∧ j = e.property then e.value? else (s.overrides k).get? j := by
  cases e with
  | give node property value => exact get?_overrides_withOverride
  | withdraw node property => exact get?_overrides_withoutOverride

/-- An edit is one of overrides alone. -/
theorem edit_eq (s : Scenario) (e : Edit) : s.edit e = { s with overlay := (s.edit e).overlay } := by
  cases e <;> rfl

/-- **A new override that is taken away again** leaves no trace, but a node without overrides is gone
with it. -/
theorem withoutOverride_withOverride (h : (s.overrides node).get? property = none) (value : Expr) :
    (s.withOverride node property value).withoutOverride node property =
      { s with overlay := if (s.overrides node).isEmpty then s.overlay.erase node else s.overlay } := by
  have hrest : ((s.withOverride node property value).overrides node).erase property =
      s.overrides node := by
    rw [overrides_withOverride, if_pos rfl, Table.erase_insert,
      Table.erase_of_not_mem (Table.get?_eq_none_iff.1 h)]
  unfold withoutOverride
  rw [hrest]
  unfold withOverride
  dsimp only
  congr 1
  cases hnode : s.overlay.get? node with
  | none =>
    -- a node that was not there had no overrides, and goes with the new one
    have hempty : (s.overrides node).isEmpty = true := by
      rw [overrides, Table.getD, hnode]
      rfl
    rw [if_pos hempty, if_pos hempty, Table.erase_insert]
  | some t =>
    have ht : s.overrides node = t := by
      rw [overrides, Table.getD, hnode]
      rfl
    rw [ht, Table.erase_insert, Table.insert_back hnode]

/-! ## Nodes without overrides -/

theorem Tidy.edit (h : s.Tidy) (e : Edit) : (s.edit e).Tidy := by
  intro k
  cases e with
  | give node property value =>
    simp only [Scenario.edit, withOverride, Table.get?_insert]
    split
    · intro hempty
      have hget := Table.get?_insert_self (s.overrides node) property value
      rw [Option.some.inj hempty] at hget
      cases hget
    · exact h k
  | withdraw node property =>
    simp only [Scenario.edit, withoutOverride]
    split
    · rw [Table.get?_erase]
      split
      · exact nofun
      · exact h k
    · rename_i hrest
      rw [Table.get?_insert]
      split
      · exact fun hempty => hrest (Table.isEmpty_iff.2 (Option.some.inj hempty))
      · exact h k

theorem Tidy.withoutOverride_withOverride (h : s.Tidy)
    (hnone : (s.overrides node).get? property = none) (value : Expr) :
    (s.withOverride node property value).withoutOverride node property = s := by
  rw [Scenario.withoutOverride_withOverride hnone]
  split
  · rename_i hempty
    have hnot : node ∉ s.overlay := by
      intro hmem
      obtain ⟨t, ht⟩ := Table.exists_get? hmem
      rw [overrides, Table.getD, ht, Option.getD_some, Table.isEmpty_iff] at hempty
      exact h node (hempty ▸ ht)
    rw [Table.erase_of_not_mem hnot]
  · rfl

/-- **A tidy scenario tells by its nodes** whether it overrides a value of the root. -/
theorem Tidy.touchesRoot_iff (h : s.Tidy) :
    s.touchesRoot = true ↔ ∃ property value, (s.overrides rootId).get? property = some value := by
  rw [touchesRoot, decide_eq_true_eq, overrides, Table.getD]
  constructor
  · intro hroot
    obtain ⟨t, ht⟩ := Table.exists_get? hroot
    have hne : t.entries ≠ [] := fun hnil => h rootId (ht.trans (congrArg some (Table.ext_entries hnil)))
    obtain ⟨⟨property, value⟩, hmem⟩ := List.exists_mem_of_ne_nil _ hne
    rw [ht]
    exact ⟨property, value, Table.get?_eq_some_iff.2 hmem⟩
  · rintro ⟨property, value, hvalue⟩
    cases ht : s.overlay.get? rootId with
    | none =>
      rw [ht] at hvalue
      cases hvalue
    | some t => exact Table.mem_of_get? ht

/-! ## Runs of edits -/

theorem edited_snoc (s : Scenario) (edits : List Edit) (e : Edit) :
    s.edited (edits ++ [e]) = (s.edited edits).edit e := by
  simp [edited]

theorem Tidy.edited (h : s.Tidy) (edits : List Edit) : (s.edited edits).Tidy := by
  induction edits using List.reverseRecOn with
  | nil => exact h
  | append_singleton edits e ih =>
    rw [edited_snoc]
    exact ih.edit e

/-- **The last edit of a place** tells what the override is. -/
theorem get?_overrides_edited (s : Scenario) (edits : List Edit) (k j : String) :
    ((s.edited edits).overrides k).get? j = s.left? edits k j := by
  induction edits using List.reverseRecOn with
  | nil => rfl
  | append_singleton edits e ih =>
    rw [edited_snoc, get?_overrides_edit, ih]
    unfold left?
    rw [List.reverse_append, List.reverse_singleton, List.singleton_append, List.find?_cons]
    by_cases he : k = e.node ∧ j = e.property
    · simp [he]
    · have hplace : ¬ (e.node = k ∧ e.property = j) := fun h => he ⟨h.1.symm, h.2.symm⟩
      simp [he, hplace]

/-- **Edits of a scenario.** Whatever was edited before, an edit gives or withdraws the override of
one property of one node, and no other override changes, nor do the name, the description and the
parent. So the last edit of a place tells what the override is in the end. An override that is given
where there was none and withdrawn again leaves all overrides as they were. If all nodes of the
scenario have overrides, then they do after all edits; then the scenario is just the same after
an override came and went; and it overrides a value of the root just if an override of the root is
left, so it does not once all of them are withdrawn. -/
theorem edits_touch_one_override (s : Scenario) (edits : List Edit) :
    let t := s.edited edits
    (∀ e : Edit, let u := s.edited (edits ++ [e])
      (∀ k j, (u.overrides k).get? j =
        if k = e.node ∧ j = e.property then e.value? else (t.overrides k).get? j) ∧
      u.name = t.name ∧ u.description = t.description ∧ u.parent = t.parent) ∧
    (∀ k j, (t.overrides k).get? j = s.left? edits k j) ∧
    (∀ node property value, (t.overrides node).get? property = none →
      let u := s.edited (edits ++ [.give node property value, .withdraw node property])
      (∀ k j, (u.overrides k).get? j = (t.overrides k).get? j) ∧ (s.Tidy → u = t)) ∧
    (s.Tidy → t.Tidy ∧
      (t.touchesRoot = true ↔ ∃ property value, (t.overrides rootId).get? property = some value) ∧
      ((∀ property, s.left? edits rootId property = none) → t.touchesRoot = false)) := by
  intro t
  have hleft : ∀ k j, (t.overrides k).get? j = s.left? edits k j := get?_overrides_edited s edits
  refine ⟨fun e => ?_, hleft, fun node property value hnone => ?_, fun hs => ?_⟩
  · intro u
    have hu : u = t.edit e := edited_snoc s edits e
    have hrest := edit_eq t e
    rw [← hu] at hrest
    refine ⟨fun k j => hu ▸ get?_overrides_edit t e k j, ?_, ?_, ?_⟩ <;> rw [hrest]
  · intro u
    have hu : u = (t.withOverride node property value).withoutOverride node property := by
      simp [u, t, edited, edit]
    refine ⟨fun k j => ?_, fun hs => hu.trans ((hs.edited edits).withoutOverride_withOverride hnone value)⟩
    rw [hu, get?_overrides_withoutOverride]
    split
    · rename_i hplace
      rw [hplace.1, hplace.2, hnone]
    · rename_i hplace
      rw [get?_overrides_withOverride, if_neg hplace]
  · have htidy := hs.edited edits
    refine ⟨htidy, htidy.touchesRoot_iff, fun hnone => ?_⟩
    rw [← Bool.not_eq_true, htidy.touchesRoot_iff]
    rintro ⟨property, value, hvalue⟩
    rw [hleft, hnone] at hvalue
    cases hvalue

/-- A thaw: the root has an override, and so has the spring. -/
def thaw : Scenario where
  name := "thaw"
  overlay := .ofList [
    (rootId, .ofList [("flow", .literal [1.0])]), ("spring", .ofList [("flow", .input)])]

/-- The edits after which the thaw does not override values of the root. -/
def leaveRoot : List Edit :=
  [.give rootId "depth" .input, .withdraw rootId "flow", .withdraw "mouth" "flow",
    .withdraw rootId "depth"]

/-- The overrides of the root go, though one of them came in between, and a node that never had any
gets one for a while. -/
theorem edits_touch_one_override_thaw :
    thaw.Tidy ∧ (thaw.edited leaveRoot).Tidy ∧
      (∀ property, thaw.left? leaveRoot rootId property = none) ∧
      (thaw.edited leaveRoot).touchesRoot = false ∧
      ((thaw.edited leaveRoot).overrides "mouth").get? "flow" = none ∧
      thaw.edited (leaveRoot ++ [.give "mouth" "flow" .input, .withdraw "mouth" "flow"]) =
        thaw.edited leaveRoot := by
  have htidy : thaw.Tidy := by
    intro node hempty
    have hmem := Table.get?_eq_some_iff.1 hempty
    change (node, (∅ : Table Expr)) ∈ [_, _] at hmem
    simp only [List.mem_cons, List.not_mem_nil, or_false] at hmem
    rcases hmem with h | h <;> cases congrArg (fun e => e.2.entries.length) h
  have hnone : ∀ property, thaw.left? leaveRoot rootId property = none := by
    intro property
    by_cases hdepth : property = "depth"
    · subst hdepth
      rfl
    by_cases hflow : property = "flow"
    · subst hflow
      rfl
    -- what is not edited was not overridden before
    have hroot : (thaw.overrides rootId).get? property = none :=
      Table.get?_eq_none_iff.2 fun h => hflow (List.mem_singleton.1 h)
    simp [left?, leaveRoot, Edit.node, Edit.property, Ne.symm hdepth, Ne.symm hflow, hroot]
  obtain ⟨-, -, hback, hroot⟩ := edits_touch_one_override thaw leaveRoot
  have hmouth : ((thaw.edited leaveRoot).overrides "mouth").get? "flow" = none := rfl
  exact ⟨htidy, (hroot htidy).1, hnone, (hroot htidy).2.2 hnone, hmouth,
    (hback "mouth" "flow" .input hmouth).2 htidy⟩

end Scenario

end ValuedGraph
