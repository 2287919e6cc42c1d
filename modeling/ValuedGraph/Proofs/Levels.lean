import Mathlib.Data.List.Nodup
import Mathlib.Data.List.Perm.Basic
import ValuedGraph.Table

/-!
# Tables of tables

The two levels of names of a table of tables may change places. The values below them stay the same,
up to their order.

* `Table.below?`: the value below two names.
* `Table.Transposed`: **tables of tables whose two levels of names change places.**
* `Table.Transposed.perm`: transposing permutes the values.
* `Table.transposed_transpose`: every table of tables can be transposed.
-/

namespace ValuedGraph.Table

variable {α : Type} {t u : Table (Table α)} {j k : String} {a : α}

/-- The value below two names. -/
def below? (t : Table (Table α)) (k j : String) : Option α := (t.getD k ∅).get? j

/-- All values of a table of tables, with the two names above each. -/
def crossings (t : Table (Table α)) : List (String × String × α) :=
  t.entries.flatMap fun e => e.2.entries.map fun d => (e.1, d.1, d.2)

/-- **Tables of tables whose two levels of names change places.** -/
structure Transposed (t u : Table (Table α)) : Prop where
  below? : ∀ j k, u.below? j k = t.below? k j
  nonempty : ∀ j ∈ u, ∃ k a, u.below? j k = some a

theorem below?_eq_some_iff :
    t.below? k j = some a ↔ ∃ inner, t.get? k = some inner ∧ inner.get? j = some a := by
  unfold below? getD
  cases t.get? k with
  | none => simp [show (∅ : Table α).get? j = none from rfl]
  | some inner => simp

theorem mem_crossings : (k, j, a) ∈ t.crossings ↔ t.below? k j = some a := by
  simp [crossings, below?_eq_some_iff, get?_eq_some_iff]

/-- No value has the two names of another one. -/
theorem nodup_crossings (t : Table (Table α)) : t.crossings.Nodup := by
  refine List.nodup_flatMap.2 ⟨fun e _ => ?_, ?_⟩
  · refine List.Nodup.of_map (fun x => x.2.1) ?_
    simpa [Function.comp_def] using e.2.nodup
  · refine (List.pairwise_map.1 t.nodup).imp fun hne => ?_
    rintro x hx hx'
    obtain ⟨_, -, rfl⟩ := List.mem_map.1 hx
    obtain ⟨_, -, h⟩ := List.mem_map.1 hx'
    exact hne (Prod.ext_iff.1 h).1.symm

/-- **Transposing permutes the values.** -/
theorem Transposed.perm (h : Transposed t u) :
    u.crossings.Perm (t.crossings.map fun x => (x.2.1, x.1, x.2.2)) := by
  have hinjective : Function.Injective fun x : String × String × α => (x.2.1, x.1, x.2.2) := by
    rintro ⟨_, _, _⟩ ⟨_, _, _⟩ h
    simpa [and_left_comm] using h
  have hnodup := t.nodup_crossings.map hinjective
  refine (List.perm_ext_iff_of_nodup u.nodup_crossings hnodup).2 fun ⟨j, k, a⟩ => ?_
  rw [mem_crossings, h.below?, ← mem_crossings]
  constructor
  · exact fun hmem => List.mem_map.2 ⟨_, hmem, rfl⟩
  · intro hmem
    obtain ⟨⟨k', j', a'⟩, hold, heq⟩ := List.mem_map.1 hmem
    obtain ⟨rfl, rfl, rfl⟩ : j' = j ∧ k' = k ∧ a' = a := by simpa using heq
    exact hold

/-- The values below one name of the second level. -/
def column (t : Table (Table α)) (j : String) : Table α :=
  .ofList (t.entries.filterMap fun e => (e.2.get? j).map fun a => (e.1, a))

/-- **A table of tables with its second level of names first.** -/
def transpose (t : Table (Table α)) : Table (Table α) :=
  .ofList ((t.entries.flatMap fun e => e.2.keys).eraseDups.map fun j => (j, t.column j))

theorem get?_column : (t.column j).get? k = t.below? k j := by
  have hkeys : ((t.entries.filterMap fun e =>
      (e.2.get? j).map fun a => (e.1, a)).map Prod.fst).Sublist t.keys := by
    unfold keys
    generalize t.entries = l
    induction l with
    | nil => simp
    | cons e l ih =>
      cases h : e.2.get? j <;> simp [h, ih]
  refine Option.ext fun a => ?_
  rw [get?_eq_some_iff, column, entries_ofList (t.nodup.sublist hkeys), below?_eq_some_iff]
  simp [get?_eq_some_iff]

theorem mem_transpose : j ∈ t.transpose ↔ ∃ k a, t.below? k j = some a := by
  have hkeys : j ∈ t.transpose ↔ ∃ e ∈ t.entries, j ∈ e.2 := by
    rw [transpose, mem_ofList]
    simp [Function.comp_def, mem_iff]
  rw [hkeys]
  constructor
  · rintro ⟨⟨k, inner⟩, he, hj⟩
    obtain ⟨a, ha⟩ := exists_get? hj
    exact ⟨k, a, below?_eq_some_iff.2 ⟨inner, get?_eq_some_iff.2 he, ha⟩⟩
  · rintro ⟨k, a, h⟩
    obtain ⟨inner, he, ha⟩ := below?_eq_some_iff.1 h
    exact ⟨(k, inner), get?_eq_some_iff.1 he, mem_of_get? ha⟩

theorem get?_transpose (h : j ∈ t.transpose) : t.transpose.get? j = some (t.column j) := by
  have hnodup : (((t.entries.flatMap fun e => e.2.keys).eraseDups.map fun j =>
      (j, t.column j)).map Prod.fst).Nodup := by
    simpa [Function.comp_def] using nodup_eraseDups _
  obtain ⟨inner, hinner⟩ := exists_get? h
  have hentry := get?_eq_some_iff.1 hinner
  rw [transpose, entries_ofList hnodup] at hentry
  obtain ⟨_, -, heq⟩ := List.mem_map.1 hentry
  obtain ⟨rfl, rfl⟩ := Prod.ext_iff.1 heq
  exact hinner

/-- **A table is transposed by what its name says.** -/
theorem transposed_transpose (t : Table (Table α)) : Transposed t t.transpose where
  below? j k := by
    by_cases hj : j ∈ t.transpose
    · rw [below?, getD, get?_transpose hj, Option.getD_some, get?_column]
    · have hnone : t.below? k j = none :=
        Option.eq_none_iff_forall_ne_some.2 fun a ha => hj (mem_transpose.2 ⟨k, a, ha⟩)
      rw [below?, getD, get?_eq_none_iff.2 hj, hnone]
      rfl
  nonempty j hj := by
    obtain ⟨k, a, ha⟩ := mem_transpose.1 hj
    refine ⟨k, a, ?_⟩
    rw [below?, getD, get?_transpose hj, Option.getD_some, get?_column, ha]

end ValuedGraph.Table
