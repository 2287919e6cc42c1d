import ValuedGraph.Number.Sum
import ValuedGraph.Proofs.Failing
import ValuedGraph.Proofs.Number.Arithmetic
import ValuedGraph.Proofs.Succeeding

/-!
# When exact sums fail

An exact sum keeps its items in two ways. The finite ones go to parts, whose leading part may leave
the range of doubles; the others are only remembered by what they add up to. So it fails in two ways
and in no other.

* `ExactSum.Remembers`: what a state knows about the items that are not finite, kept by every item.
* `ExactSum.Overflows`: **a finite item takes a part out of range.**
* `SumFails`, `exactSum_eq_error`: **the two failures of exact sums.**
-/

namespace ValuedGraph

/-- The leading part of a sum with an item that is not finite is not finite. -/
theorem isFinite_absorb {x : Float} (h : x.isFinite = false) (parts : List Float) :
    (absorb x parts).2.isFinite = false := by
  induction parts generalizing x with
  | nil => exact h
  | cons y parts ih =>
    have hhigh : (twoSum x y).1.isFinite = false := by
      by_cases hlt : x.abs < y.abs
      · simpa only [twoSum, if_pos hlt] using isFinite_add (Or.inr h)
      · simpa only [twoSum, if_neg hlt] using isFinite_add (Or.inl h)
    exact ih hhigh

namespace ExactSum

variable {s t : ExactSum} {x : Float} {seen : List Float}

/-- **Where a finite item goes:** to the parts, or nowhere. -/
theorem add_of_isFinite (hx : x.isFinite = true) :
    ((absorb x s.parts).2.isFinite = true ∧ ∃ parts, s.add x = .ok { s with parts }) ∨
      ((absorb x s.parts).2.isFinite = false ∧ s.add x = .error .sumOverflow) := by
  unfold add
  dsimp only
  cases htop : (absorb x s.parts).2.isFinite with
  | true =>
    refine Or.inl ⟨rfl, ?_⟩
    split
    · exact ⟨_, rfl⟩
    · exact ⟨_, if_pos rfl⟩
  | false =>
    refine Or.inr ⟨rfl, ?_⟩
    rw [beq_zero_of_not_isFinite htop, hx]
    rfl

/-- **Where another item goes:** to what is only remembered. -/
theorem add_of_not_isFinite (hx : x.isFinite = false) :
    s.add x = .ok ⟨[], s.special + x, if x.isInf then s.infinite + x else s.infinite⟩ := by
  have htop := isFinite_absorb hx s.parts
  unfold add
  dsimp only
  rw [beq_zero_of_not_isFinite htop, htop, hx]
  rfl

/-- The sum of infinities, by which of them occur. -/
def meeting : Bool → Bool → Float
  | false, false => 0.0
  | true, false => infinity
  | false, true => -infinity
  | true, true => nan

theorem meeting_add_infinity (positive negative : Bool) :
    meeting positive negative + infinity = meeting true negative := by
  cases positive <;> cases negative <;> rfl

theorem meeting_sub_infinity (positive negative : Bool) :
    meeting positive negative + -infinity = meeting positive true := by
  cases positive <;> cases negative <;> rfl

/-- **What a state knows about the items that are not finite:** whether there are any, and which
infinities are among them. -/
structure Remembers (s : ExactSum) (seen : List Float) (positive negative : Bool) : Prop where
  special : (s.special == 0.0) = seen.all Float.isFinite
  infinite : s.infinite = meeting positive negative
  positive : positive = true ↔ infinity ∈ seen
  negative : negative = true ↔ -infinity ∈ seen

theorem remembers_start : start.Remembers [] false false := by
  constructor <;> first | rfl | simp

variable {positive negative : Bool}

/-- An item that is no infinity is no news of infinities. -/
theorem mem_append_of_not_isInf {y : Float} (hy : y.isInf = true) (hx : x.isInf = false) :
    y ∈ seen ++ [x] ↔ y ∈ seen := by
  have hne : y ≠ x := by
    rintro rfl
    rw [hx] at hy
    cases hy
  simp [hne]

/-- A finite item changes nothing about the others. -/
theorem Remembers.keep (h : s.Remembers seen positive negative) (hx : x.isFinite = true)
    (parts : List Float) :
    Remembers { s with parts } (seen ++ [x]) positive negative := by
  have hinf : x.isInf = false := (isFinite_iff.1 hx).2
  constructor
  · rw [List.all_append, List.all_cons, hx]
    simpa using h.special
  · exact h.infinite
  · rw [mem_append_of_not_isInf rfl hinf]
    exact h.positive
  · rw [mem_append_of_not_isInf rfl hinf]
    exact h.negative

/-- **Another item is remembered.** -/
theorem Remembers.add_special (h : s.Remembers seen positive negative) (hx : x.isFinite = false) :
    ∃ positive' negative', Remembers
      ⟨[], s.special + x, if x.isInf then s.infinite + x else s.infinite⟩
      (seen ++ [x]) positive' negative' := by
  have hspecial : (s.special + x == 0.0) = (seen ++ [x]).all Float.isFinite := by
    rw [beq_zero_of_not_isFinite (isFinite_add (Or.inr hx)), List.all_append, List.all_cons, hx]
    simp
  cases hinf : x.isInf with
  | false =>
    refine ⟨positive, negative, hspecial, h.infinite, ?_, ?_⟩
    · rw [mem_append_of_not_isInf rfl hinf]
      exact h.positive
    · rw [mem_append_of_not_isInf rfl hinf]
      exact h.negative
  | true =>
    have hother : infinity ≠ -infinity := fun heq => absurd (congrArg signBit heq) (by decide +kernel)
    obtain rfl | rfl := eq_infinity hinf
    · refine ⟨true, negative, hspecial, ?_, by simp, ?_⟩
      · rw [if_pos rfl, h.infinite, meeting_add_infinity]
      · simpa [hother.symm] using h.negative
    · refine ⟨positive, true, hspecial, ?_, ?_, by simp⟩
      · rw [if_pos rfl, h.infinite, meeting_sub_infinity]
      · simpa [hother] using h.positive

/-- **A finite item takes a part out of range:** added to the parts of the items before it, it gives
a leading part that is not finite. -/
inductive Overflows : ExactSum → List Float → Prop
  | here {s : ExactSum} {x : Float} (items : List Float) (finite : x.isFinite = true)
      (top : (absorb x s.parts).2.isFinite = false) : Overflows s (x :: items)
  | later {s t : ExactSum} {x : Float} {items : List Float} (added : s.add x = .ok t)
      (rest : Overflows t items) : Overflows s (x :: items)

/-- Nothing but a part out of range keeps a state from the next one. -/
theorem add_cases (s : ExactSum) (x : Float) :
    (∃ t, s.add x = .ok t) ∨
      (s.add x = .error .sumOverflow ∧ x.isFinite = true ∧
        (absorb x s.parts).2.isFinite = false) := by
  cases hx : x.isFinite with
  | true =>
    obtain ⟨-, parts, hadd⟩ | ⟨htop, hadd⟩ := add_of_isFinite (s := s) hx
    · exact Or.inl ⟨_, hadd⟩
    · exact Or.inr ⟨hadd, rfl, htop⟩
  | false => exact Or.inl ⟨_, add_of_not_isFinite hx⟩

/-- One item. -/
theorem Remembers.add (h : s.Remembers seen positive negative) (hadd : s.add x = .ok t) :
    ∃ positive' negative', t.Remembers (seen ++ [x]) positive' negative' := by
  cases hx : x.isFinite with
  | true =>
    obtain ⟨-, parts, hparts⟩ | ⟨-, herror⟩ := add_of_isFinite (s := s) hx
    · obtain rfl := Except.ok.inj (hparts.symm.trans hadd)
      exact ⟨_, _, h.keep hx parts⟩
    · rw [herror] at hadd
      cases hadd
  | false =>
    obtain rfl := Except.ok.inj ((add_of_not_isFinite hx).symm.trans hadd)
    exact h.add_special hx

/-- All items. -/
theorem Remembers.foldlM {items : List Float} (h : s.Remembers seen positive negative)
    (hadd : items.foldlM ExactSum.add s = .ok t) :
    ∃ positive' negative', t.Remembers (seen ++ items) positive' negative' := by
  induction items generalizing s seen positive negative with
  | nil =>
    obtain rfl := Except.ok.inj hadd
    exact ⟨_, _, by simpa using h⟩
  | cons x items ih =>
    rw [List.foldlM_cons] at hadd
    obtain ⟨next, hnext, hadd⟩ := ok_of_bind hadd
    obtain ⟨_, _, hrem⟩ := h.add hnext
    simpa using ih hrem hadd

/-- Where the items leave all parts in range there is a state behind them, and nowhere else. -/
theorem foldlM_add_cases (s : ExactSum) (items : List Float) :
    ((∃ t, items.foldlM ExactSum.add s = .ok t) ∧ ¬ s.Overflows items) ∨
      (items.foldlM ExactSum.add s = .error .sumOverflow ∧ s.Overflows items) := by
  induction items generalizing s with
  | nil => exact Or.inl ⟨⟨s, rfl⟩, nofun⟩
  | cons x items ih =>
    rw [List.foldlM_cons]
    obtain ⟨t, ht⟩ | ⟨herror, hfinite, htop⟩ := add_cases s x
    · rw [bind_of_ok ht]
      -- a state behind the first item is the state that the rest starts from
      refine (ih t).imp (And.imp_right fun hnone hsome => ?_) (And.imp_right (.later ht))
      cases hsome with
      | here _ hfinite htop =>
        obtain ⟨hfinite', -⟩ | ⟨-, herror⟩ := add_of_isFinite (s := s) hfinite
        · rw [htop] at hfinite'
          cases hfinite'
        · rw [herror] at ht
          cases ht
      | later hadded hrest =>
        obtain rfl := Except.ok.inj (hadded.symm.trans ht)
        exact hnone hrest
    · exact Or.inr ⟨bind_of_error herror _, .here items hfinite htop⟩

theorem isNaN_meeting (positive negative : Bool) :
    (meeting positive negative).isNaN = (positive && negative) := by
  cases positive <;> cases negative <;> rfl

/-- **A state fails to give its sum** if infinities of both signs are among the items. -/
theorem Remembers.finish_eq_error {fault : NumericFault}
    (h : s.Remembers seen positive negative) :
    s.finish = .error fault ↔
      fault = .opposingInfinities ∧ infinity ∈ seen ∧ -infinity ∈ seen := by
  have hboth : s.infinite.isNaN = true ↔ infinity ∈ seen ∧ -infinity ∈ seen := by
    rw [h.infinite, isNaN_meeting, Bool.and_eq_true, h.positive, h.negative]
  unfold finish
  split
  · rename_i hspecial
    rw [h.special, List.all_eq_true] at hspecial
    refine ⟨nofun, fun ⟨_, hmem, _⟩ => ?_⟩
    cases hspecial _ hmem
  · split
    · rename_i hnan
      rw [Except.error.injEq, and_iff_left (hboth.1 hnan)]
      exact eq_comm
    · rename_i hnan
      refine ⟨nofun, fun ⟨_, hmem⟩ => absurd (hboth.2 hmem) hnan⟩

end ExactSum

/-- **How the exact sum of a list fails:** a part leaves the range of doubles, or infinities of both
signs meet. -/
inductive SumFails (items : List Float) : NumericFault → Prop
  | overflow (overflows : ExactSum.start.Overflows items) : SumFails items .sumOverflow
  | opposing (within : ¬ ExactSum.start.Overflows items) (positive : infinity ∈ items)
      (negative : -infinity ∈ items) : SumFails items .opposingInfinities

theorem exists_sumFails {items : List Float} :
    (∃ fault, SumFails items fault) ↔
      ExactSum.start.Overflows items ∨ (infinity ∈ items ∧ -infinity ∈ items) := by
  constructor
  · rintro ⟨_, hover | ⟨-, hpos, hneg⟩⟩
    · exact Or.inl hover
    · exact Or.inr ⟨hpos, hneg⟩
  · intro h
    by_cases hover : ExactSum.start.Overflows items
    · exact ⟨_, .overflow hover⟩
    · obtain ⟨hpos, hneg⟩ := h.resolve_left hover
      exact ⟨_, .opposing hover hpos hneg⟩

/-- **Exact sums fail in these two ways** and in no other. -/
theorem exactSum_eq_error {items : List Float} {fault : NumericFault} :
    exactSum items = .error fault ↔ SumFails items fault := by
  unfold exactSum
  obtain ⟨⟨s, hs⟩, hnone⟩ | ⟨herror, hsome⟩ := ExactSum.foldlM_add_cases .start items
  · obtain ⟨_, _, hrem⟩ := ExactSum.remembers_start.foldlM hs
    rw [bind_of_ok hs, hrem.finish_eq_error, List.nil_append]
    constructor
    · rintro ⟨rfl, hpos, hneg⟩
      exact .opposing hnone hpos hneg
    · rintro (hover | ⟨-, hpos, hneg⟩)
      · exact absurd hover hnone
      · exact ⟨rfl, hpos, hneg⟩
  · rw [bind_of_error herror, Except.error.injEq]
    constructor
    · rintro rfl
      exact .overflow hsome
    · rintro (- | ⟨hwithin, -, -⟩)
      · rfl
      · exact absurd hsome hwithin

end ValuedGraph
