import Mathlib.Data.List.Forall2
import ValuedGraph.Table

/-!
# How computations succeed

A sequence has a result if each of its parts has, and the result can be taken apart in the same way
as the sequence.

* `ok_of_bind`, `check_bind`, `ok_of_guard`: sequences, with checks or tests in front of them.
* `bind_eq_ok`, `guard_eq_ok`, `map_eq_ok`: **when a sequence has a given result.**
* `mapM_ok`, `foldlM_cons_ok`: computations along lists.
* `Table.traverse_ok`: **a table is computed entry by entry.**
-/

namespace ValuedGraph

variable {ε α β : Type}

/-- What goes on to a value had a value so far. -/
theorem ok_of_bind {x : Except ε α} {f : α → Except ε β} {b : β}
    (h : (x >>= f) = .ok b) : ∃ a, x = .ok a ∧ f a = .ok b := by
  cases x with
  | error e => cases h
  | ok a => exact ⟨a, rfl, h⟩

/-- A check that goes on went well so far. -/
theorem check_bind {x : Except ε PUnit} {f : PUnit → Except ε β} {b : β}
    (h : (x >>= f) = .ok b) : x = .ok () ∧ f () = .ok b := by
  obtain ⟨_, hx, hf⟩ := ok_of_bind h
  exact ⟨hx, hf⟩

/-- A test in front of the rest is passed, and the rest has the result. -/
theorem guard_eq_ok {c : Prop} [Decidable c] {e : ε} {rest : PUnit → Except ε β} {b : β} :
    (if c then (.error e : Except ε PUnit) >>= rest else rest ⟨⟩) = .ok b ↔
      ¬ c ∧ rest ⟨⟩ = .ok b := by
  by_cases hc : c
  · rw [if_pos hc]
    refine ⟨fun h => ?_, fun h => absurd hc h.1⟩
    cases h
  · rw [if_neg hc]
    exact (and_iff_right hc).symm

/-- What goes on to a value passed the test in front of it. -/
theorem ok_of_guard {c : Prop} [Decidable c] {e : ε} {rest : PUnit → Except ε β} {b : β}
    (h : (if c then (.error e : Except ε PUnit) >>= rest else rest ⟨⟩) = .ok b) :
    ¬ c ∧ rest ⟨⟩ = .ok b := guard_eq_ok.1 h

/-- A value goes on to what comes after it. -/
theorem bind_of_ok {x : Except ε α} {a : α} (h : x = .ok a) (f : α → Except ε β) :
    x >>= f = f a := by
  rw [h]
  rfl

/-- **A sequence has the results** that its second part has of those of its first. -/
theorem bind_eq_ok {x : Except ε α} {f : α → Except ε β} {b : β} :
    (x >>= f) = .ok b ↔ ∃ a, x = .ok a ∧ f a = .ok b := by
  refine ⟨ok_of_bind, ?_⟩
  rintro ⟨a, ha, hb⟩
  rw [bind_of_ok ha, hb]

theorem pure_eq_ok {a b : α} : (pure a : Except ε α) = .ok b ↔ a = b :=
  ⟨Except.ok.inj, congrArg Except.ok⟩

theorem map_eq_ok {x : Except ε α} {f : α → β} {b : β} :
    x.map f = .ok b ↔ ∃ a, x = .ok a ∧ f a = b := by
  cases x <;> simp [Except.map]

/-- Values are not touched where errors are. -/
theorem ok_of_mapError {ε' : Type} {x : Except ε α} {f : ε → ε'} {a : α}
    (h : x.mapError f = .ok a) : x = .ok a := by
  cases x with
  | error e => cases h
  | ok b =>
    obtain rfl : b = a := Except.ok.inj h
    rfl

/-- What holds of all results of something holds of each in a list. -/
theorem forall_mem_of_forall₂ {r : α → β → Prop} {P : β → Prop} {l : List α} {bs : List β}
    (h : List.Forall₂ r l bs) (hP : ∀ a b, r a b → P b) : ∀ b ∈ bs, P b :=
  ((List.forall₂_and_left _ _).1 (h.flip.imp fun b a hr => ⟨hP a b hr, hr⟩)).1

/-- What a member of one of two lists is related to in the other one. -/
theorem exists_of_forall₂ {r : α → β → Prop} {l : List α} {bs : List β} (h : List.Forall₂ r l bs)
    {b : β} (hb : b ∈ bs) : ∃ a ∈ l, r a b := by
  have hall : List.Forall₂ (fun a b => a ∈ l ∧ r a b) l bs :=
    (List.forall₂_and_left _ _).2 ⟨fun _ ha => ha, h⟩
  exact forall_mem_of_forall₂ (P := fun b => ∃ a ∈ l, r a b) hall (fun a _ hr => ⟨a, hr⟩) b hb

/-- **A list has results** if its members have, one by one. -/
theorem mapM_ok {f : α → Except ε β} {l : List α} {bs : List β} :
    l.mapM f = .ok bs ↔ List.Forall₂ (fun a b => f a = .ok b) l bs := by
  induction l generalizing bs with
  | nil => cases bs <;> simp [Pure.pure, Except.pure]
  | cons a l ih =>
    rw [List.mapM_cons]
    constructor
    · intro h
      obtain ⟨b, hb, h⟩ := ok_of_bind h
      obtain ⟨bs', hbs', h⟩ := ok_of_bind h
      obtain rfl : b :: bs' = bs := Except.ok.inj h
      exact List.Forall₂.cons hb (ih.1 hbs')
    · intro h
      cases h with
      | cons hb hl =>
        rw [bind_of_ok hb, bind_of_ok (ih.2 hl)]
        rfl

/-- Numbered members have results as the members have. -/
theorem mapM_zipIdx_ok {f : α × ℕ → Except ε β} {r : α → β → Prop}
    (h : ∀ a i b, f (a, i) = .ok b ↔ r a b) {l : List α} {bs : List β} :
    l.zipIdx.mapM f = .ok bs ↔ List.Forall₂ r l bs := by
  have hread : (fun e b => f e = .ok b) = fun e b => r e.1 b :=
    funext₂ fun (a, i) b => propext (h a i b)
  rw [mapM_ok, hread, ← List.forall₂_map_left_iff, List.zipIdx_map_fst]

/-- **Lists of results, one behind the other,** where each member has its results one by one. -/
theorem flatten_mapM_ok {γ : Type} {f : α → Except ε (List β)} {c : α → Prop} {g : α → List γ}
    {r : γ → β → Prop} (h : ∀ a bs, f a = .ok bs ↔ c a ∧ List.Forall₂ r (g a) bs) {l : List α}
    {bs : List β} :
    (do return (← l.mapM f).flatten) = .ok bs ↔
      (∀ a ∈ l, c a) ∧ List.Forall₂ r (l.flatMap g) bs := by
  have hmap : (do return (← l.mapM f).flatten) = .ok bs ↔
      ∃ bss, List.Forall₂ (fun a bs => f a = .ok bs) l bss ∧ bss.flatten = bs := by
    constructor
    · intro hbs
      obtain ⟨bss, hbss, hbs⟩ := ok_of_bind hbs
      exact ⟨bss, mapM_ok.1 hbss, Except.ok.inj hbs⟩
    · rintro ⟨bss, hbss, rfl⟩
      exact bind_of_ok (mapM_ok.2 hbss) _
  rw [hmap]
  clear hmap
  induction l generalizing bs with
  | nil => simp [eq_comm]
  | cons a l ih =>
    rw [List.flatMap_cons, List.forall_mem_cons]
    constructor
    · rintro ⟨bss, hbss, rfl⟩
      cases hbss with
      | cons hb hl =>
        obtain ⟨hc, hb⟩ := (h _ _).1 hb
        obtain ⟨hcs, hbs⟩ := ih.1 ⟨_, hl, rfl⟩
        exact ⟨⟨hc, hcs⟩, List.rel_append hb hbs⟩
    · rintro ⟨⟨hc, hcs⟩, hbs⟩
      -- the results of the first member are as many as what they are read from
      have htake := List.forall₂_take_append _ _ _ hbs.flip
      have hdrop := List.forall₂_drop_append _ _ _ hbs.flip
      obtain ⟨bss, hbss, hrest⟩ := ih.2 ⟨hcs, hdrop.flip⟩
      refine ⟨_ :: bss, .cons ((h _ _).2 ⟨hc, htake.flip⟩) hbss, ?_⟩
      rw [List.flatten_cons, hrest, List.take_append_drop]

/-- A list whose members all have results has results. -/
theorem exists_mapM_ok {f : α → Except ε β} {l : List α} (h : ∀ a ∈ l, ∃ b, f a = .ok b) :
    ∃ bs, l.mapM f = .ok bs := by
  induction l with
  | nil => exact ⟨[], rfl⟩
  | cons a l ih =>
    obtain ⟨b, hb⟩ := h a (by simp)
    obtain ⟨bs, hbs⟩ := ih fun c hc => h c (by simp [hc])
    exact ⟨b :: bs, mapM_ok.2 (.cons hb (mapM_ok.1 hbs))⟩

/-- A fold goes on behind its first step. -/
theorem foldlM_cons_ok {step : β → α → Except ε β} {a : α} {l : List α} {b d : β} :
    (a :: l).foldlM step b = .ok d ↔ ∃ c, step b a = .ok c ∧ l.foldlM step c = .ok d := by
  rw [List.foldlM_cons, bind_eq_ok]

namespace Table

variable {f : String → α → Except ε β} {t : Table α} {u : Table β} {k : String} {b : β}

/-- **A table is computed entry by entry.** -/
theorem traverse_ok (h : t.traverse f = .ok u) :
    List.Forall₂ (fun e d => e.1 = d.1 ∧ f e.1 e.2 = .ok d.2) t.entries u.entries := by
  obtain ⟨l, hl, h⟩ := ok_of_bind h
  obtain rfl : ofList l = u := Except.ok.inj h
  have hall : List.Forall₂ (fun e d => e.1 = d.1 ∧ f e.1 e.2 = .ok d.2) t.entries l := by
    refine (mapM_ok.1 hl).imp fun e d h => ?_
    obtain ⟨b, hb, h⟩ := ok_of_bind h
    obtain rfl : (e.1, b) = d := Except.ok.inj h
    exact ⟨rfl, hb⟩
  -- the names stay, so none of them occurs twice
  have hkeys : t.entries.map Prod.fst = l.map Prod.fst :=
    List.forall₂_eq_eq_eq ▸ List.forall₂_map_left_iff.2
      (List.forall₂_map_right_iff.2 (hall.imp fun _ _ h => h.1))
  rwa [entries_ofList (hkeys ▸ t.nodup)]

/-- A table is computed to one with the same names. -/
theorem keys_of_traverse (h : t.traverse f = .ok u) : u.keys = t.keys :=
  List.forall₂_eq_eq_eq ▸ List.forall₂_map_left_iff.2
    (List.forall₂_map_right_iff.2 ((traverse_ok h).flip.imp fun _ _ h => h.1.symm))

theorem mem_of_traverse (h : t.traverse f = .ok u) : k ∈ u ↔ k ∈ t := by
  rw [mem_iff, mem_iff, keys_of_traverse h]

/-- **What an entry of a table is computed from.** -/
theorem get?_of_traverse (h : t.traverse f = .ok u) :
    u.get? k = some b ↔ ∃ a, t.get? k = some a ∧ f k a = .ok b := by
  have hall := traverse_ok h
  unfold get?
  generalize t.entries = l at hall
  generalize u.entries = l' at hall
  induction hall with
  | nil => simp
  | @cons e d _ _ hentry _ ih =>
    obtain ⟨hkey, hval⟩ := hentry
    obtain ⟨i, a⟩ := e
    obtain ⟨j, c⟩ := d
    obtain rfl : i = j := hkey
    by_cases hk : k = i
    · subst hk
      simp [hval]
    · simpa [List.lookup_cons, beq_false_of_ne hk] using ih

/-- **What an entry of a table is computed to.** -/
theorem exists_of_traverse (h : t.traverse f = .ok u) {a : α} (ha : t.get? k = some a) :
    ∃ b, f k a = .ok b ∧ u.get? k = some b := by
  have hk : k ∈ u := (mem_of_traverse h).2 (mem_of_get? ha)
  obtain ⟨b, hb⟩ := exists_get? hk
  obtain ⟨a', ha', hval⟩ := (get?_of_traverse h).1 hb
  obtain rfl : a = a' := Option.some.inj (ha.symm.trans ha')
  exact ⟨b, hval, hb⟩

/-- A table whose entries can all be computed can be computed. -/
theorem exists_traverse (h : ∀ k a, t.get? k = some a → ∃ b, f k a = .ok b) :
    ∃ u, t.traverse f = .ok u := by
  obtain ⟨l, hl⟩ := exists_mapM_ok (l := t.entries) (f := fun e => do return (e.1, ← f e.1 e.2))
    fun e he => by
      obtain ⟨b, hb⟩ := h e.1 e.2 (get?_eq_some_iff.2 he)
      exact ⟨(e.1, b), bind_of_ok hb _⟩
  exact ⟨ofList l, bind_of_ok hl _⟩

end Table

end ValuedGraph
