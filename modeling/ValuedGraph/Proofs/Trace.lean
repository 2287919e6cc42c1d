import ValuedGraph.Proofs.Succeeding
import ValuedGraph.Trace

/-!
# Results of traced computations

How the result of a sequence of computations follows from the results of its members.

* `Traced.result_bind_ok`, `Traced.result_bind_error`: a sequence has a result if both parts
  have, and fails where the first of them fails.
* `Traced.mapError_bind`: to name a failure in another way goes along with sequences.
* `Traced.bind_congr`: what a sequence goes on with only matters at the values it comes to.
* `Traced.result_mapM`, `Traced.result_traverse`: the log has no influence on the results of lists
  and tables.
* `Traced.result_foldlM_append`, `Traced.result_foldlM_error`: a fold goes as far as its steps
  have results.
* `Traced.foldlM_related`, `Traced.exists_foldlM_ok`: two folds along one list.
-/

namespace ValuedGraph

namespace Traced

variable {ε α β : Type} {f g : α → Traced ε β} {l : List α}

theorem result_bind_ok {x : Traced ε α} {b : β} :
    (x >>= f).result = .ok b ↔ ∃ a, x.result = .ok a ∧ (f a).result = .ok b := by
  rw [result_bind]
  cases x.result <;> simp [Except.bind]

theorem result_bind_error {x : Traced ε α} {e : ε} :
    (x >>= f).result = .error e ↔
      x.result = .error e ∨ ∃ a, x.result = .ok a ∧ (f a).result = .error e := by
  rw [result_bind]
  cases x.result <;> simp [Except.bind]

theorem result_mapError_ok {ε' : Type} {h : ε → ε'} {x : Traced ε α} {a : α} :
    (x.mapError h).result = .ok a ↔ x.result = .ok a := by
  unfold mapError
  cases x.result with
  | ok b =>
    constructor
    · intro hb
      rw [Except.ok.inj hb]
    · intro hb
      cases hb
      rfl
  | error e => exact ⟨nofun, nofun⟩

theorem result_mapError_error {ε' : Type} {h : ε → ε'} {x : Traced ε α} {e' : ε'} :
    (x.mapError h).result = .error e' ↔ ∃ e, x.result = .error e ∧ h e = e' := by
  unfold mapError
  cases x.result with
  | ok b => exact ⟨nofun, nofun⟩
  | error e =>
    constructor
    · intro he
      exact ⟨e, rfl, Except.error.inj he⟩
    · rintro ⟨_, he, rfl⟩
      cases he
      rfl

section MapError

variable {ε' : Type} {h : ε → ε'}

@[simp] theorem mapError_pure (a : α) : (pure a : Traced ε α).mapError h = pure a := rfl

/-- A failure may be named in another way at each step, or at the end. -/
@[simp] theorem mapError_bind (x : Traced ε α) (f : α → Traced ε β) :
    (x >>= f).mapError h = x.mapError h >>= fun a => (f a).mapError h := by
  obtain ⟨log, r⟩ := x
  cases r <;> rfl

theorem mapError_mapM (f : α → Traced ε β) (l : List α) :
    (l.mapM f).mapError h = l.mapM fun a => (f a).mapError h := by
  induction l with
  | nil => rfl
  | cons a l ih => simp only [List.mapM_cons, mapError_bind, mapError_pure, ih]

end MapError

/-- **Computations that agree on the values of a first one** make no difference behind it. -/
theorem bind_congr {x : Traced ε α} (h : ∀ a, x.result = .ok a → f a = g a) : x >>= f = x >>= g := by
  change Traced.bind x f = Traced.bind x g
  unfold Traced.bind
  cases hr : x.result with
  | ok a => simp only [h a hr]
  | error e => rfl

/-- Computations that agree on the members of a list. -/
theorem mapM_congr (h : ∀ a ∈ l, f a = g a) : l.mapM f = l.mapM g := by
  induction l with
  | nil => rfl
  | cons a l ih =>
    rw [List.mapM_cons, List.mapM_cons, h a (by simp), ih fun b hb => h b (by simp [hb])]

/-- The log has no influence on the results of a list. -/
theorem result_mapM (f : α → Traced ε β) (l : List α) :
    (l.mapM f).result = l.mapM fun a => (f a).result := by
  induction l with
  | nil => rfl
  | cons a l ih =>
    rw [List.mapM_cons, List.mapM_cons, ← ih, result_bind]
    congr 1
    funext b
    rw [result_bind]
    rfl

/-- The log has no influence on the result of a table. -/
theorem result_traverse (f : String → α → Traced ε β) (t : Table α) :
    (t.traverse f).result = t.traverse fun k a => (f k a).result := by
  unfold Table.traverse
  rw [result_bind, result_mapM]
  simp only [result_bind]
  rfl

/-- **A list has results** if its members have, one by one. -/
theorem result_mapM_ok {bs : List β} :
    (l.mapM f).result = .ok bs ↔ List.Forall₂ (fun a b => (f a).result = .ok b) l bs := by
  rw [result_mapM, mapM_ok]

theorem mem_of_mapM_ok {bs : List β} (h : (l.mapM f).result = .ok bs) {b : β} (hb : b ∈ bs) :
    ∃ a ∈ l, (f a).result = .ok b := exists_of_forall₂ (result_mapM_ok.1 h) hb

/-- A member of a list that has results has one, which is among them. -/
theorem exists_of_mapM_ok {bs : List β} (h : (l.mapM f).result = .ok bs) {a : α} (ha : a ∈ l) :
    ∃ b ∈ bs, (f a).result = .ok b := exists_of_forall₂ (result_mapM_ok.1 h).flip ha

/-- The result of a member of a list is among those of the list. -/
theorem mem_mapM_ok {bs : List β} (h : (l.mapM f).result = .ok bs) {a : α} (ha : a ∈ l) {b : β}
    (hb : (f a).result = .ok b) : b ∈ bs := by
  obtain ⟨b', hmem, hb'⟩ := exists_of_mapM_ok h ha
  obtain rfl := Except.ok.inj (hb.symm.trans hb')
  exact hmem

/-- A list whose members have known results. -/
theorem mapM_ok_map {g : α → β} (h : ∀ a ∈ l, (f a).result = .ok (g a)) :
    (l.mapM f).result = .ok (l.map g) := by
  rw [result_mapM_ok, List.forall₂_map_right_iff]
  exact List.forall₂_same.2 h

/-- A list whose members all have results has results. -/
theorem exists_mapM_ok (h : ∀ a ∈ l, ∃ b, (f a).result = .ok b) :
    ∃ bs, (l.mapM f).result = .ok bs := by
  rw [result_mapM]
  exact ValuedGraph.exists_mapM_ok h

/-- The failure of a list is that of one of its members. -/
theorem mem_of_mapM_error {e : ε} (h : (l.mapM f).result = .error e) :
    ∃ a ∈ l, (f a).result = .error e := by
  induction l with
  | nil => simp at h
  | cons a l ih =>
    rw [List.mapM_cons] at h
    rcases result_bind_error.1 h with ha | ⟨b, -, h⟩
    · exact ⟨a, by simp, ha⟩
    · rcases result_bind_error.1 h with hl | ⟨bs, -, h⟩
      · obtain ⟨c, hc, he⟩ := ih hl
        exact ⟨c, by simp [hc], he⟩
      · simp at h

variable {γ : Type} {step : γ → α → Traced ε γ} {c d : γ}

/-- **A fold along two lists,** one after the other. -/
theorem result_foldlM_append {l' : List α} : ((l ++ l').foldlM step c).result = .ok d ↔
    ∃ e, (l.foldlM step c).result = .ok e ∧ (l'.foldlM step e).result = .ok d := by
  rw [List.foldlM_append, result_bind_ok]

theorem result_foldlM_cons {a : α} : ((a :: l).foldlM step c).result = .ok d ↔
    ∃ e, (step c a).result = .ok e ∧ (l.foldlM step e).result = .ok d := by
  rw [List.foldlM_cons, result_bind_ok]

/-- **A fold fails** at the first member of the list where its step fails. -/
theorem result_foldlM_error {e : ε} (h : (l.foldlM step c).result = .error e) :
    ∃ before a after d, l = before ++ a :: after ∧ (before.foldlM step c).result = .ok d ∧
      (step d a).result = .error e := by
  induction l generalizing c with
  | nil => simp at h
  | cons a l ih =>
    rw [List.foldlM_cons] at h
    rcases result_bind_error.1 h with ha | ⟨d, hd, hl⟩
    · exact ⟨[], a, l, c, rfl, rfl, ha⟩
    · obtain ⟨before, b, after, f, rfl, hf, hb⟩ := ih hl
      exact ⟨a :: before, b, after, f, rfl, result_foldlM_cons.2 ⟨d, hd, hf⟩, hb⟩

variable {δ : Type} {step' : δ → α → Traced ε δ} {R : γ → δ → Prop}

/-- **Two folds along a list that both have results** keep what each step keeps. -/
theorem foldlM_related (hstep : ∀ a ∈ l, ∀ {c d c' d'}, R c d → (step c a).result = .ok c' →
    (step' d a).result = .ok d' → R c' d') :
    ∀ {c d c' d'}, R c d → (l.foldlM step c).result = .ok c' →
      (l.foldlM step' d).result = .ok d' → R c' d' := by
  induction l with
  | nil =>
    intro c d c' d' h hc hd
    obtain rfl := Except.ok.inj hc
    obtain rfl := Except.ok.inj hd
    exact h
  | cons a l ih =>
    intro c d c' d' h hc hd
    obtain ⟨e, he, hc⟩ := result_foldlM_cons.1 hc
    obtain ⟨e', he', hd⟩ := result_foldlM_cons.1 hd
    exact ih (fun b hb => hstep b (by simp [hb])) (hstep a (by simp) h he he') hc hd

/-- **A fold has a result** if a related one has, and each step keeps up with the related one. -/
theorem exists_foldlM_ok (hstep : ∀ a ∈ l, ∀ {c d c'}, R c d → (step c a).result = .ok c' →
    ∃ d', (step' d a).result = .ok d' ∧ R c' d') :
    ∀ {c d c'}, R c d → (l.foldlM step c).result = .ok c' →
      ∃ d', (l.foldlM step' d).result = .ok d' := by
  induction l with
  | nil =>
    intro c d c' _ _
    exact ⟨d, rfl⟩
  | cons a l ih =>
    intro c d c' h hc
    obtain ⟨e, he, hc⟩ := result_foldlM_cons.1 hc
    obtain ⟨e', he', h'⟩ := hstep a (by simp) h he
    obtain ⟨d', hd'⟩ := ih (fun b hb => hstep b (by simp [hb])) h' hc
    exact ⟨d', result_foldlM_cons.2 ⟨e', he', hd'⟩⟩

end Traced

end ValuedGraph
