import ValuedGraph.Combiner
import ValuedGraph.Proofs.Mixing
import ValuedGraph.Proofs.Number.ExactSum

/-!
# When combiners fail

Only a combiner that adds numbers up may fail, and it fails where their exact sum does.

* `Combiner.exists_mixPacked`: an average of packed colors never fails.
* `Combiner.apply_eq_error`, `Combiner.apply_fails_iff_sum_fails`: **the failures of combiners.**
-/

namespace ValuedGraph

namespace Combiner

/-- **An average of packed colors never fails.** -/
theorem exists_mixPacked {items : List Float} (hne : items ≠ []) :
    ∃ x, mixPacked items = .ok x := by
  have hbytes : ∀ c ∈ items.map Color.unpack, c.Bytes := by
    intro c hc
    obtain ⟨x, -, rfl⟩ := List.mem_map.1 hc
    exact Color.bytes_unpack x
  obtain ⟨c, x, hmix, hpack⟩ := Color.exists_mix (by simpa using hne) hbytes
  exact ⟨x, (bind_of_ok hmix _).trans hpack⟩

/-- The answer to nothing. -/
theorem pack_black : Color.black.pack = .ok 255.0 := by rfl

variable {c : Combiner} {items : List Float} {fault : NumericFault}

/-- **A combiner that adds nothing up has a result.** -/
theorem exists_apply (h : ¬ (c = sum ∨ c = mean)) (items : List Float) :
    ∃ x, c.apply items = .ok x := by
  cases items with
  | nil =>
    cases c with
    | colorMean => exact ⟨_, pack_black⟩
    | _ => exact ⟨_, rfl⟩
  | cons x items =>
    cases c with
    | sum => exact absurd (Or.inl rfl) h
    | mean => exact absurd (Or.inr rfl) h
    | colorMean => exact exists_mixPacked (by simp)
    | _ => exact ⟨_, rfl⟩

/-- One that does fails as the exact sum does. -/
theorem apply_eq_error_of_adds (h : c = sum ∨ c = mean) :
    c.apply items = .error fault ↔ exactSum items = .error fault := by
  obtain rfl | rfl := h
  · cases items with
    | nil => exact ⟨nofun, nofun⟩
    | cons x items => exact Iff.rfl
  · cases items with
    | nil => exact ⟨nofun, nofun⟩
    | cons x items =>
      change (exactSum (x :: items)).map _ = _ ↔ _
      cases exactSum (x :: items) <;> simp [Except.map]

/-- **What a combiner may fail with.** -/
theorem apply_eq_error :
    c.apply items = .error fault ↔ (c = sum ∨ c = mean) ∧ SumFails items fault := by
  by_cases hadds : c = sum ∨ c = mean
  · rw [apply_eq_error_of_adds hadds, exactSum_eq_error, and_iff_right hadds]
  · obtain ⟨x, hx⟩ := exists_apply hadds items
    rw [hx]
    exact ⟨nofun, fun h => absurd h.1 hadds⟩

/-- **The failures of combiners.** Every combiner answers every list of doubles with one number, the
empty list with zero or opaque black, but for sums and means: those have no answer exactly where
the exact sum leaves the range of doubles on the way, and where it meets infinities of both
signs. -/
theorem apply_fails_iff_sum_fails (c : Combiner) (items : List Float) :
    ((∃ x, c.apply items = .ok x) ↔
      ¬ ((c = sum ∨ c = mean) ∧
        (ExactSum.start.Overflows items ∨ (infinity ∈ items ∧ -infinity ∈ items)))) ∧
    (∀ fault, c.apply items = .error fault ↔ (c = sum ∨ c = mean) ∧ SumFails items fault) ∧
    c.apply [] = .ok (if c = colorMean then 255.0 else 0.0) := by
  refine ⟨?_, fun fault => apply_eq_error, ?_⟩
  · rw [← exists_sumFails]
    cases happly : c.apply items with
    | ok x =>
      refine iff_of_true ⟨x, rfl⟩ ?_
      rintro ⟨hadds, fault, hfails⟩
      have herror := apply_eq_error.2 ⟨hadds, hfails⟩
      rw [happly] at herror
      cases herror
    | error fault =>
      obtain ⟨hadds, hfails⟩ := apply_eq_error.1 happly
      exact iff_of_false nofun fun hnone => hnone ⟨hadds, fault, hfails⟩
  · by_cases hcolor : c = colorMean
    · rw [hcolor, if_pos rfl]
      exact pack_black
    · rw [if_neg hcolor, apply_nil hcolor]

/-- **A sum that is a double may have no answer:** here the first two items are out of range. -/
theorem sum_largest_overflows :
    sum.apply [1e308, 1e308, -1e308] = .error .sumOverflow := by
  decide +kernel

end Combiner

end ValuedGraph
