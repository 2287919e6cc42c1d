/-!
# Tables

A `Table α` gives values to names and remembers the order in which the names were
first written. Writing a name again changes its value and keeps its place.

* `get?_insert`: after a write, the written name has the new value and every other
  name has the value it had.
* `keys_insert`: a write adds the name at the end, or nothing if it is there already.
* `get?_eq_some_iff`: looking up and being an entry are the same thing.
* `ext_get?`: tables with the same names and the same values are equal.
* `get?_overlay`: of two tables laid over each other, the upper one is asked first.
* `keys_foldl_insert`: after several writes, each name stands where it was written first.
* `get?_erase`: an erased name has no value, and every other name has the value it had.
* `insert_back`, `erase_insert`: what is written over and written back, or written and erased.
-/

namespace ValuedGraph

/-- A list without repetitions is not changed by removing them. -/
theorem eraseDups_of_nodup {l : List String} (h : l.Nodup) : l.eraseDups = l := by
  induction l with
  | nil => rfl
  | cons a l ih =>
    obtain ⟨ha, hl⟩ := List.nodup_cons.1 h
    have hfilter : l.filter (fun b => !b == a) = l := by
      refine List.filter_eq_self.2 fun b hb => ?_
      simpa using fun heq : b = a => ha (heq ▸ hb)
    rw [List.eraseDups_cons, hfilter, ih hl]

/-- The recursion of `List.eraseDups`, which goes on with what differs from the first element. -/
theorem eraseDups_induction {motive : List String → Prop} (nil : motive [])
    (cons : ∀ a l, motive (l.filter fun b => !b == a) → motive (a :: l)) (l : List String) :
    motive l := by
  induction hn : l.length using Nat.strongRecOn generalizing l with
  | _ n ih =>
    cases l with
    | nil => exact nil
    | cons a l =>
      refine cons a l (ih _ ?_ _ rfl)
      have := List.length_filter_le (fun b => !b == a) l
      simp only [List.length_cons] at hn
      omega

/-- A list without its repetitions has every element once. -/
theorem nodup_eraseDups (l : List String) : l.eraseDups.Nodup := by
  induction l using eraseDups_induction with
  | nil => simp
  | cons a l ih =>
    rw [List.eraseDups_cons, List.nodup_cons]
    refine ⟨?_, ih⟩
    rw [List.mem_eraseDups]
    simp

/-- What a filter keeps stays in the order of the first places. -/
theorem idxOf_lt_of_filter {keep : String → Bool} {a b : String} (ha : keep a = true)
    (hb : keep b = true) {l : List String} (h : (l.filter keep).idxOf a < (l.filter keep).idxOf b) :
    l.idxOf a < l.idxOf b := by
  induction l with
  | nil => simp at h
  | cons c l ih =>
    by_cases hc : keep c = true
    · rw [List.filter_cons_of_pos hc] at h
      by_cases hac : c = a
      · subst hac
        by_cases hbc : c = b
        · subst hbc
          simp at h
        · simp [List.idxOf_cons, beq_false_of_ne hbc]
      · by_cases hbc : c = b
        · subst hbc
          simp at h
        · simp only [List.idxOf_cons, beq_false_of_ne hac, beq_false_of_ne hbc, cond_false] at h ⊢
          have := ih (by omega)
          omega
    · have hac : c ≠ a := fun heq => hc (heq ▸ ha)
      have hbc : c ≠ b := fun heq => hc (heq ▸ hb)
      rw [List.filter_cons_of_neg hc] at h
      simp only [List.idxOf_cons, beq_false_of_ne hac, beq_false_of_ne hbc, cond_false]
      have := ih h
      omega

/-- **Without its repetitions** a list has its elements in the order of their first places. -/
theorem pairwise_eraseDups (l : List String) :
    l.eraseDups.Pairwise fun a b => l.idxOf a < l.idxOf b := by
  induction l using eraseDups_induction with
  | nil => simp
  | cons c l ih =>
    rw [List.eraseDups_cons, List.pairwise_cons]
    have hmem : ∀ b ∈ (l.filter fun b => !b == c).eraseDups, b ≠ c := by
      intro b hb
      simpa using (List.mem_filter.1 (List.mem_eraseDups.1 hb)).2
    constructor
    · intro b hb
      have hne := hmem b hb
      simp [List.idxOf_cons, beq_false_of_ne hne.symm]
    · refine ih.imp_of_mem fun {a b} ha hb hab => ?_
      have hac := hmem a ha
      have hbc := hmem b hb
      have hlt := idxOf_lt_of_filter (by simpa using hac) (by simpa using hbc) hab
      simp only [List.idxOf_cons, beq_false_of_ne hac.symm, beq_false_of_ne hbc.symm, cond_false]
      omega

/-- A filter may be applied before the repetitions are removed, or after. -/
theorem eraseDups_filter (keep : String → Bool) (l : List String) :
    (l.filter keep).eraseDups = l.eraseDups.filter keep := by
  induction l using eraseDups_induction with
  | nil => rfl
  | cons a l ih =>
    rw [List.filter_filter] at ih
    by_cases ha : keep a = true
    · rw [List.filter_cons_of_pos ha, List.eraseDups_cons, List.eraseDups_cons,
        List.filter_cons_of_pos ha, ← ih, List.filter_filter]
      simp only [Bool.and_comm]
    · -- what is kept differs from the first element anyway
      have hkept : (l.filter fun b => keep b && !b == a) = l.filter keep := by
        refine List.filter_congr fun b _ => ?_
        by_cases hb : b = a
        · subst hb
          simp [ha]
        · simp [hb]
      rw [List.filter_cons_of_neg ha, List.eraseDups_cons, List.filter_cons_of_neg ha, ← ih, hkept]

/-- **Repetitions make no difference** to what is listed first for the elements of a list. -/
theorem eraseDups_flatMap_eraseDups (f : String → List String) (l : List String) :
    (l.eraseDups.flatMap f).eraseDups = (l.flatMap f).eraseDups := by
  induction l using eraseDups_induction with
  | nil => rfl
  | cons a l ih =>
    -- what a repetition lists is listed before
    have hrest : ∀ keep : String → Bool, (f a).filter keep = [] →
        ((l.filter fun b => !b == a).flatMap f).filter keep = (l.flatMap f).filter keep := by
      clear ih
      intro keep hkeep
      induction l with
      | nil => rfl
      | cons b l ih =>
        by_cases hb : b = a
        · subst hb
          simp [ih, hkeep]
        · simp [hb, ih]
    simp only [List.eraseDups_cons, List.flatMap_cons, List.eraseDups_append, List.removeAll]
    rw [eraseDups_filter, ih, ← eraseDups_filter, hrest _ (by simp)]

/-- **An insertion-ordered map from names.** No name occurs twice. -/
structure Table (α : Type) where
  entries : List (String × α)
  nodup : (entries.map Prod.fst).Nodup

namespace Table

variable {α β : Type}

/-- The names of a table, in order. -/
def keys (t : Table α) : List String := t.entries.map Prod.fst

/-- The values of a table, in the order of their names. -/
def values (t : Table α) : List α := t.entries.map Prod.snd

/-- The value of a name, if it has one. -/
def get? (t : Table α) (k : String) : Option α := t.entries.lookup k

/-- The value of a name, or a default. -/
def getD (t : Table α) (k : String) (default : α) : α := (t.get? k).getD default

instance : Membership String (Table α) := ⟨fun t k => k ∈ t.keys⟩

instance (t : Table α) (k : String) : Decidable (k ∈ t) :=
  inferInstanceAs (Decidable (k ∈ t.keys))

/-- Writes an entry into a list of entries, in place or at the end. -/
def put (k : String) (a : α) : List (String × α) → List (String × α)
  | [] => [(k, a)]
  | (j, b) :: rest => if j = k then (k, a) :: rest else (j, b) :: put k a rest

theorem map_fst_put (k : String) (a : α) (l : List (String × α)) :
    (put k a l).map Prod.fst =
      if k ∈ l.map Prod.fst then l.map Prod.fst else l.map Prod.fst ++ [k] := by
  induction l with
  | nil => simp [put]
  | cons e l ih =>
    obtain ⟨j, b⟩ := e
    by_cases h : j = k
    · simp [put, h]
    · have h' : ¬ k = j := fun e => h e.symm
      simp only [put, if_neg h, List.map_cons, ih, List.mem_cons, h', false_or]
      split <;> simp

theorem lookup_put (k j : String) (a : α) (l : List (String × α)) :
    (put k a l).lookup j = if j = k then some a else l.lookup j := by
  induction l with
  | nil =>
    by_cases h : j = k
    · simp [put, h]
    · simp [put, List.lookup_cons, beq_false_of_ne h, h]
  | cons e l ih =>
    obtain ⟨i, b⟩ := e
    by_cases h : i = k
    · subst h
      by_cases hj : j = i
      · simp [put, hj]
      · simp [put, List.lookup_cons, beq_false_of_ne hj, hj]
    · by_cases hj : j = i
      · subst hj; simp [put, h]
      · simp [put, h, List.lookup_cons, beq_false_of_ne hj, ih]

/-- A test that an entry fails does not see it written. -/
theorem filter_put {keep : String × α → Bool} {k : String} (h : ∀ a, keep (k, a) = false) (a : α)
    (l : List (String × α)) : (put k a l).filter keep = l.filter keep := by
  induction l with
  | nil => simp [put, h]
  | cons e l ih =>
    obtain ⟨j, b⟩ := e
    by_cases hj : j = k
    · subst hj
      simp [put, h]
    · rw [put, if_neg hj, List.filter_cons, List.filter_cons, ih]

/-- The table without entries. -/
def empty : Table α := ⟨[], List.nodup_nil⟩

instance : EmptyCollection (Table α) := ⟨empty⟩

instance : Inhabited (Table α) := ⟨empty⟩

/-- Gives a name a value. -/
def insert (t : Table α) (k : String) (a : α) : Table α where
  entries := put k a t.entries
  nodup := by
    rw [map_fst_put]
    split
    · exact t.nodup
    · rename_i h
      refine List.nodup_append.2 ⟨t.nodup, by simp, ?_⟩
      intro x hx y hy
      simp only [List.mem_singleton] at hy
      subst hy
      exact fun e => h (e ▸ hx)

/-- Writes a list of entries one after the other. -/
def insertAll (t : Table α) (l : List (String × α)) : Table α :=
  l.foldl (fun t e => t.insert e.1 e.2) t

/-- The table of a list of entries: the first place of a name, the last of its values. -/
def ofList (l : List (String × α)) : Table α := empty.insertAll l

/-- Overlays a table with another one, whose entries win. -/
def overlay (t u : Table α) : Table α := t.insertAll u.entries

/-- Gives every listed name the same value. -/
def constant (names : List String) (a : α) : Table α := ofList (names.map fun k => (k, a))

/-- Removes a name. -/
def erase (t : Table α) (k : String) : Table α where
  entries := t.entries.filter fun e => e.1 ≠ k
  nodup := t.nodup.sublist (List.filter_sublist.map _)

/-- Changes every value, which may depend on its name. -/
def map (f : String → α → β) (t : Table α) : Table β where
  entries := t.entries.map fun e => (e.1, f e.1 e.2)
  nodup := by simpa [Function.comp_def] using t.nodup

/-- Changes every value by an action, in order. -/
def traverse {m : Type → Type} [Monad m] (f : String → α → m β) (t : Table α) : m (Table β) := do
  return ofList (← t.entries.mapM fun e => do return (e.1, ← f e.1 e.2))

/-- Whether there is no entry. -/
def isEmpty (t : Table α) : Bool := t.entries.isEmpty

/-- The number of entries. -/
def size (t : Table α) : Nat := t.entries.length

theorem mem_iff {t : Table α} {k : String} : k ∈ t ↔ k ∈ t.keys := Iff.rfl

theorem nodup_keys (t : Table α) : t.keys.Nodup := t.nodup

@[simp] theorem keys_empty : (empty : Table α).keys = [] := rfl

@[simp] theorem get?_empty (k : String) : (empty : Table α).get? k = none := rfl

/-- **A write is read back,** and no other name is touched. -/
theorem get?_insert (t : Table α) (k j : String) (a : α) :
    (t.insert k a).get? j = if j = k then some a else t.get? j :=
  lookup_put k j a t.entries

@[simp] theorem get?_insert_self (t : Table α) (k : String) (a : α) :
    (t.insert k a).get? k = some a := by simp [get?_insert]

theorem get?_insert_of_ne (t : Table α) {k j : String} (a : α) (h : j ≠ k) :
    (t.insert k a).get? j = t.get? j := by simp [get?_insert, h]

/-- **A new name goes last;** a known name keeps its place. -/
theorem keys_insert (t : Table α) (k : String) (a : α) :
    (t.insert k a).keys = if k ∈ t then t.keys else t.keys ++ [k] :=
  map_fst_put k a t.entries

theorem keys_prefix_insert (t : Table α) (k : String) (a : α) : t.keys <+: (t.insert k a).keys := by
  rw [keys_insert]
  split
  · exact List.prefix_rfl
  · exact List.prefix_append _ _

theorem lookup_eq_some_iff {l : List (String × α)} (h : (l.map Prod.fst).Nodup) {k : String}
    {a : α} : l.lookup k = some a ↔ (k, a) ∈ l := by
  induction l with
  | nil => simp
  | cons e l ih =>
    obtain ⟨j, b⟩ := e
    simp only [List.map_cons, List.nodup_cons] at h
    by_cases hk : k = j
    · subst hk
      have hl : (k, a) ∉ l := fun hm => h.1 (List.mem_map_of_mem (f := Prod.fst) hm)
      simp [hl, eq_comm]
    · simp [List.lookup_cons, beq_false_of_ne hk, ih h.2, hk]

/-- **Lookup is membership.** -/
theorem get?_eq_some_iff {t : Table α} {k : String} {a : α} :
    t.get? k = some a ↔ (k, a) ∈ t.entries := lookup_eq_some_iff t.nodup

theorem get?_isSome_iff {t : Table α} {k : String} : (t.get? k).isSome ↔ k ∈ t := by
  rw [Option.isSome_iff_exists]
  simp only [get?_eq_some_iff, mem_iff, keys, List.mem_map, Prod.exists]
  constructor
  · rintro ⟨a, h⟩; exact ⟨k, a, h, rfl⟩
  · rintro ⟨j, a, h, rfl⟩; exact ⟨a, h⟩

theorem ext_entries {t u : Table α} (h : t.entries = u.entries) : t = u := by
  cases t
  cases u
  cases h
  rfl

/-- **A table is known by its names and its values.** -/
theorem ext_get? {t u : Table α} (hkeys : t.keys = u.keys) (h : ∀ k, t.get? k = u.get? k) : t = u := by
  have hlen : t.entries.length = u.entries.length := by
    simpa [keys] using congrArg List.length hkeys
  have hentries : t.entries = u.entries := by
    refine List.ext_getElem hlen fun i ht hu => ?_
    have hkey : t.entries[i].1 = u.entries[i].1 := by
      have hi : t.keys[i]? = u.keys[i]? := by rw [hkeys]
      simpa [keys, ht, hu] using hi
    have ht' : t.get? t.entries[i].1 = some t.entries[i].2 :=
      get?_eq_some_iff.2 (List.getElem_mem ht)
    have hu' : u.get? u.entries[i].1 = some u.entries[i].2 :=
      get?_eq_some_iff.2 (List.getElem_mem hu)
    rw [h, hkey, hu'] at ht'
    exact Prod.ext hkey (Option.some.inj ht').symm
  exact ext_entries hentries

/-- Entries may be listed in another order. -/
theorem get?_of_perm {t u : Table α} (h : t.entries.Perm u.entries) (k : String) :
    t.get? k = u.get? k :=
  Option.ext fun a => by rw [get?_eq_some_iff, get?_eq_some_iff, h.mem_iff]

theorem mem_of_get? {t : Table α} {k : String} {a : α} (h : t.get? k = some a) : k ∈ t :=
  get?_isSome_iff.1 (Option.isSome_of_eq_some h)

theorem exists_get? {t : Table α} {k : String} (h : k ∈ t) : ∃ a, t.get? k = some a :=
  Option.isSome_iff_exists.1 (get?_isSome_iff.2 h)

theorem get?_eq_none_iff {t : Table α} {k : String} : t.get? k = none ↔ k ∉ t := by
  rw [← get?_isSome_iff, Option.isSome_iff_ne_none, Decidable.not_not]

/-- The values of a table are those of its names. -/
theorem mem_values {t : Table α} {a : α} : a ∈ t.values ↔ ∃ k, t.get? k = some a := by
  simp [values, get?_eq_some_iff]

/-- A write adds one name. -/
theorem mem_insert {t : Table α} {k j : String} {a : α} : j ∈ t.insert k a ↔ j = k ∨ j ∈ t := by
  rw [← get?_isSome_iff, ← get?_isSome_iff, get?_insert]
  by_cases h : j = k <;> simp [h]

/-- A value that is written back was never changed. -/
theorem insert_back {t : Table α} {k : String} {a : α} (h : t.get? k = some a) (b : α) :
    (t.insert k b).insert k a = t := by
  refine ext_get? ?_ fun j => ?_
  · rw [keys_insert, if_pos (mem_insert.2 (Or.inl rfl)), keys_insert, if_pos (mem_of_get? h)]
  · by_cases hj : j = k
    · rw [hj, get?_insert_self, h]
    · rw [get?_insert_of_ne _ _ hj, get?_insert_of_ne _ _ hj]

/-- What holds of the entries of a table and of one more entry. -/
theorem forall_get?_insert {t : Table α} {p : String → α → Prop} (h : ∀ k a, t.get? k = some a → p k a)
    {k : String} {a : α} (ha : p k a) : ∀ j b, (t.insert k a).get? j = some b → p j b := by
  intro j b hj
  rw [get?_insert] at hj
  split at hj
  · rename_i heq
    rw [heq, ← Option.some.inj hj]
    exact ha
  · exact h j b hj

/-- Writing entries with new names appends them. -/
theorem entries_insertAll {t : Table α} {l : List (String × α)}
    (h : (t.keys ++ l.map Prod.fst).Nodup) : (t.insertAll l).entries = t.entries ++ l := by
  induction l generalizing t with
  | nil => simp [insertAll]
  | cons e l ih =>
    obtain ⟨k, a⟩ := e
    have hk : k ∉ t.entries.map Prod.fst := fun hm =>
      (List.nodup_append.1 h).2.2 k hm k (by simp) rfl
    have hput : ∀ m : List (String × α), k ∉ m.map Prod.fst → put k a m = m ++ [(k, a)] := by
      intro m hm
      induction m with
      | nil => rfl
      | cons d m ihm =>
        simp only [List.map_cons, List.mem_cons, not_or] at hm
        simp [put, if_neg (Ne.symm hm.1), ihm hm.2]
    have hins : (t.insert k a).entries = t.entries ++ [(k, a)] := hput _ hk
    have hkeys : (t.insert k a).keys = t.keys ++ [k] := by simp [keys, hins]
    change ((t.insert k a).insertAll l).entries = _
    rw [ih (by rw [hkeys, List.append_assoc]; exact h), hins]
    simp

/-- **The table of a list of distinct names** has just the entries of the list. -/
theorem entries_ofList {l : List (String × α)} (h : (l.map Prod.fst).Nodup) :
    (ofList l).entries = l := by
  simpa [ofList, empty] using entries_insertAll (t := (empty : Table α)) (l := l) (by simpa using h)

theorem get?_insertAll (t : Table α) {l : List (String × α)} (h : (l.map Prod.fst).Nodup)
    (k : String) : (t.insertAll l).get? k = (l.lookup k).or (t.get? k) := by
  induction l generalizing t with
  | nil => rfl
  | cons e l ih =>
    obtain ⟨j, b⟩ := e
    simp only [List.map_cons, List.nodup_cons] at h
    change ((t.insert j b).insertAll l).get? k = _
    rw [ih _ h.2, get?_insert, List.lookup_cons]
    by_cases hk : k = j
    · subst hk
      have hl : l.lookup k = none := by
        cases hl : l.lookup k with
        | none => rfl
        | some a =>
          exact absurd (List.mem_map_of_mem (f := Prod.fst) ((lookup_eq_some_iff h.2).1 hl)) h.1
      simp [hl]
    · simp [hk, beq_false_of_ne hk]

/-- **The names of a table after writes:** each stands where it is written first. What is written
may depend on the table so far. -/
theorem keys_foldl_insert (key : β → String) (f : Table α → β → α) (l : List β) (t : Table α) :
    (l.foldl (fun t b => t.insert (key b) (f t b)) t).keys = (t.keys ++ l.map key).eraseDups := by
  induction l generalizing t with
  | nil =>
    rw [List.map_nil, List.append_nil, eraseDups_of_nodup t.nodup_keys]
    rfl
  | cons b l ih =>
    rw [List.foldl_cons, ih, keys_insert]
    split
    · rename_i hmem
      have hmem : key b ∈ t.keys := hmem
      simp [List.eraseDups_append, List.removeAll, hmem]
    · simp

theorem keys_insertAll (t : Table α) (l : List (String × α)) :
    (t.insertAll l).keys = (t.keys ++ l.map Prod.fst).eraseDups :=
  keys_foldl_insert Prod.fst (fun _ e => e.2) l t

/-- The table of a list has the names of the list. -/
theorem mem_ofList {l : List (String × α)} {k : String} : k ∈ ofList l ↔ k ∈ l.map Prod.fst := by
  rw [mem_iff, ofList, keys_insertAll, List.mem_eraseDups, keys_empty, List.nil_append]

/-- **In an overlaid table** a name has its value in the upper table, else that in the lower
one. -/
theorem get?_overlay (t u : Table α) (k : String) :
    (t.overlay u).get? k = (u.get? k).or (t.get? k) := get?_insertAll t u.nodup k

/-- An overlaid table has the names of both. -/
theorem mem_overlay {t u : Table α} {k : String} : k ∈ t.overlay u ↔ k ∈ t ∨ k ∈ u := by
  rw [← get?_isSome_iff, ← get?_isSome_iff, ← get?_isSome_iff, get?_overlay]
  cases u.get? k <;> simp

/-- **An erased name has no value,** and no other name is touched. -/
theorem get?_erase (t : Table α) (k j : String) :
    (t.erase k).get? j = if j = k then none else t.get? j := by
  apply Option.ext
  intro a
  rw [get?_eq_some_iff]
  by_cases h : j = k
  · simp [erase, h]
  · simp [erase, h, get?_eq_some_iff]

theorem erase_of_not_mem {t : Table α} {k : String} (h : k ∉ t) : t.erase k = t := by
  refine ext_entries (List.filter_eq_self.2 fun e he => decide_eq_true ?_)
  rintro rfl
  exact h (List.mem_map_of_mem he)

/-- A value that is erased again was never written. -/
theorem erase_insert (t : Table α) (k : String) (a : α) : (t.insert k a).erase k = t.erase k :=
  ext_entries (filter_put (fun _ => by simp) a t.entries)

theorem isEmpty_iff {t : Table α} : t.isEmpty = true ↔ t = ∅ := by
  rw [isEmpty, List.isEmpty_iff]
  exact ⟨fun h => ext_entries h, fun h => h ▸ rfl⟩

theorem get?_map (f : String → α → β) (t : Table α) (k : String) :
    (t.map f).get? k = (t.get? k).map (f k) := by
  change List.lookup k (t.entries.map fun e => (e.1, f e.1 e.2)) = (t.entries.lookup k).map (f k)
  induction t.entries with
  | nil => rfl
  | cons e l ih =>
    obtain ⟨j, b⟩ := e
    by_cases h : k = j
    · simp [h]
    · simpa [List.lookup_cons, beq_false_of_ne h] using ih

@[simp] theorem keys_map (f : String → α → β) (t : Table α) : (t.map f).keys = t.keys := by
  simp [keys, map, Function.comp_def]

end Table

end ValuedGraph
