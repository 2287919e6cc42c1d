import ValuedGraph.Table

/-!
# How computations fail

A property of all failures of a computation is built up along the computation: a sequence fails
where its first part fails, or where the rest does.

* `OnlyFails`: **every failure has a property.**
* `OnlyFails.bind`, `OnlyFails.mapM`, `OnlyFails.foldlM`, `OnlyFails.traverse`: sequences, and
  computations along lists and tables.
* `bind_of_error`, `traverse_of_error`: a failure is passed on.
-/

namespace ValuedGraph

variable {ε ε' α β : Type} {P : ε → Prop}

/-- **Every failure of a computation** has a property. -/
def OnlyFails (P : ε → Prop) (x : Except ε α) : Prop := ∀ e, x = .error e → P e

namespace OnlyFails

theorem ok (a : α) : OnlyFails P (.ok a : Except ε α) := by
  intro e h
  cases h

theorem pure (a : α) : OnlyFails P (Pure.pure a : Except ε α) := ok a

theorem error {e : ε} (he : P e) : OnlyFails P (.error e : Except ε α) := by
  intro e' h
  cases h
  exact he

variable {x : Except ε α}

theorem bind {f : α → Except ε β} (hx : OnlyFails P x) (hf : ∀ a, x = .ok a → OnlyFails P (f a)) :
    OnlyFails P (x >>= f) := by
  cases hres : x with
  | error e => exact error (hx e hres)
  | ok a => exact hf a hres

theorem map {f : α → β} (hx : OnlyFails P x) : OnlyFails P (x.map f) := by
  cases hres : x with
  | error e => exact error (hx e hres)
  | ok a => exact ok (f a)

theorem mapError {f : ε → ε'} {Q : ε' → Prop} (hx : OnlyFails P x) (hf : ∀ e, P e → Q (f e)) :
    OnlyFails Q (x.mapError f) := by
  cases hres : x with
  | error e => exact error (hf e (hx e hres))
  | ok a => exact ok a

theorem ite {c : Prop} [Decidable c] {y : Except ε α} (hx : c → OnlyFails P x)
    (hy : ¬ c → OnlyFails P y) : OnlyFails P (if c then x else y) := by
  by_cases h : c
  · rw [if_pos h]
    exact hx h
  · rw [if_neg h]
    exact hy h

/-- A test that comes before the rest. -/
theorem guard {c : Prop} [Decidable c] {y : Except ε PUnit} {rest : PUnit → Except ε α}
    (hy : c → OnlyFails P y) (hrest : OnlyFails P (rest ⟨⟩)) :
    OnlyFails P (if c then y >>= rest else rest ⟨⟩) :=
  ite (fun h => (hy h).bind fun _ _ => hrest) fun _ => hrest

theorem mapM {f : α → Except ε β} {l : List α} (h : ∀ a ∈ l, OnlyFails P (f a)) :
    OnlyFails P (l.mapM f) := by
  induction l with
  | nil => exact pure []
  | cons a l ih =>
    rw [List.mapM_cons]
    refine bind (h a (by simp)) fun b _ => ?_
    exact bind (ih fun c hc => h c (by simp [hc])) fun bs _ => pure (b :: bs)

theorem foldlM {f : β → α → Except ε β} {l : List α} (h : ∀ b, ∀ a ∈ l, OnlyFails P (f b a))
    (b : β) : OnlyFails P (l.foldlM f b) := by
  induction l generalizing b with
  | nil => exact pure b
  | cons a l ih =>
    rw [List.foldlM_cons]
    exact bind (h b a (by simp)) fun c _ => ih (fun c d hd => h c d (by simp [hd])) c

/-- **Changing all values of a table** fails where changing one of them does. -/
theorem traverse {f : String → α → Except ε β} {t : Table α}
    (h : ∀ k, ∀ a ∈ t.values, OnlyFails P (f k a)) : OnlyFails P (t.traverse f) := by
  refine bind (mapM fun e he => ?_) fun _ _ => pure _
  have hvalue : e.2 ∈ t.values := List.mem_map_of_mem he
  exact bind (h e.1 e.2 hvalue) fun _ _ => pure _

end OnlyFails

section Passing

variable {e : ε}

/-- A failure is the failure of all that comes after it. -/
theorem bind_of_error {x : Except ε α} (h : x = .error e) (f : α → Except ε β) :
    x >>= f = .error e := by
  rw [h]
  rfl

/-- **Where the first value of a table cannot be changed,** the table cannot. -/
theorem traverse_of_error {f : String → α → Except ε β} {t : Table α} {k : String} {a : α}
    {rest : List (String × α)} (ht : t.entries = (k, a) :: rest) (h : f k a = .error e) :
    t.traverse f = .error e := by
  refine bind_of_error ?_ _
  rw [ht, List.mapM_cons]
  exact bind_of_error (bind_of_error h _) _

end Passing

end ValuedGraph
