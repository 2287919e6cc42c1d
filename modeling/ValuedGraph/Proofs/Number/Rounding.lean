import Mathlib
import ValuedGraph.Number.Binary64

/-!
# Rounded numbers

Arithmetic of doubles takes them apart into a significand and an exponent, computes exactly, and
then drops the bits that are too many. This module says how large the outcome is. Sizes are given by
the place of the leading bit, and no rounding moves it by more than one.

* `Rounding.exists_shift`, `Rounding.roundWithAccuracy_cases`: the bits that are dropped.
* `Rounding.exists_roundWithAccuracy`: **what is not too small does not vanish.**
* `Rounding.Rounded`, `Rounding.Bounded`: **a number that rounding may leave behind,** and a finite
  one of a known size.
* `Rounding.bounded_mul`, `Rounding.bounded_div`: the sizes of products and quotients.
-/

namespace ValuedGraph

open Float.Model Float.Model.UnpackedFloat

namespace Rounding

variable {u v : UnpackedFloat} {b c e : ℤ} {m n k : ℕ} {s : Sign} {a : Accuracy}

/-! ## Dropped bits -/

theorem log2_le_of_lt (h : n < 2 ^ (k + 1)) : n.log2 ≤ k := by
  rcases Nat.eq_zero_or_pos n with rfl | hn
  · simp
  · exact Nat.lt_succ_iff.1 ((Nat.log2_lt hn.ne').2 h)

theorem log2_mul_le (m n : ℕ) : (m * n).log2 ≤ m.log2 + n.log2 + 1 := by
  refine log2_le_of_lt ?_
  calc m * n < 2 ^ (m.log2 + 1) * 2 ^ (n.log2 + 1) :=
        Nat.mul_lt_mul_of_lt_of_lt Nat.lt_log2_self Nat.lt_log2_self
    _ = 2 ^ (m.log2 + n.log2 + 1 + 1) := by
      rw [← Nat.pow_add, Nat.add_add_add_comm]

theorem log2_shiftLeft_le (m k : ℕ) : (m <<< k).log2 ≤ m.log2 + k := by
  rw [Nat.shiftLeft_eq]
  refine log2_le_of_lt ?_
  calc m * 2 ^ k < 2 ^ (m.log2 + 1) * 2 ^ k :=
        Nat.mul_lt_mul_of_pos_right Nat.lt_log2_self (Nat.two_pow_pos k)
    _ = 2 ^ (m.log2 + k + 1) := by rw [← Nat.pow_add, Nat.add_right_comm]

theorem log2_shiftLeft (hm : m ≠ 0) (k : ℕ) : (m <<< k).log2 = m.log2 + k := by
  refine Nat.le_antisymm (log2_shiftLeft_le m k) ?_
  rw [Nat.shiftLeft_eq, Nat.le_log2 (Nat.mul_ne_zero hm (Nat.two_pow_pos k).ne'), Nat.pow_add]
  exact Nat.mul_le_mul_right _ (Nat.log2_self_le hm)

theorem log2_div_add_le (h : m / n ≠ 0) : (m / n).log2 + n.log2 ≤ m.log2 := by
  have hn : n ≠ 0 := by
    rintro rfl
    simp at h
  have hm : m ≠ 0 := by
    rintro rfl
    simp at h
  rw [Nat.le_log2 hm, Nat.pow_add]
  calc 2 ^ (m / n).log2 * 2 ^ n.log2 ≤ m / n * n :=
        Nat.mul_le_mul (Nat.log2_self_le h) (Nat.log2_self_le hn)
    _ ≤ m := Nat.div_mul_le_self m n

theorem mantissa_shiftRight (em : ExtendedMantissa) (k : ℕ) :
    (em >>> k).mantissa = em.mantissa / 2 ^ k := by
  induction k with
  | zero => simp [HShiftRight.hShiftRight, Nat.repeat]
  | succ k ih =>
    change (em >>> k).mantissa / 2 = _
    rw [ih, Nat.div_div_eq_div_mul, Nat.pow_succ]

theorem mantissa_ofMantissaAndAccuracy (m : ℕ) (a : Accuracy) :
    (ExtendedMantissa.ofMantissaAndAccuracy m a).mantissa = m := by
  cases a with
  | exact => rfl
  | inexact o => cases o <;> rfl

theorem roundedMantissa_le (em : ExtendedMantissa) : em.roundedMantissa ≤ em.mantissa + 1 := by
  obtain ⟨m, r, s⟩ := em
  cases r <;> cases s <;>
    simp only [ExtendedMantissa.roundedMantissa, ExtendedMantissa.accuracy,
      Accuracy.roundToNearestEven] <;> omega

theorem targetExponent_eq (t : ℤ) : Format.binary64.targetExponent t = max (t - 53) (-1074) := rfl

/-- **How many bits are dropped:** none, or so many that 53 bits or the least exponent remain. -/
theorem exists_shift (m : ℕ) (e : ℤ) (a : Accuracy) : ∃ k : ℕ,
    (shiftToTargetExponent .binary64 m e a).1.mantissa = m / 2 ^ k ∧
      (shiftToTargetExponent .binary64 m e a).2 = e + k ∧ m.log2 ≤ 52 + k ∧ -1074 ≤ e + k ∧
      (k = 0 ∨ e + k = max (m.log2 + e - 52) (-1074)) := by
  refine ⟨(max ((m.log2 : ℤ) + 1 + e - 53) (-1074) - e).toNat, ?_, rfl, by omega, by omega,
    by omega⟩
  simp only [shiftToTargetExponent, shiftToExponent, targetExponent_eq, totalExponent,
    mantissa_shiftRight, mantissa_ofMantissaAndAccuracy]

theorem shift_lt (h : m.log2 ≤ 52 + k) : m / 2 ^ k < 2 ^ 53 := by
  rw [Nat.div_lt_iff_lt_mul (Nat.two_pow_pos _), ← Nat.pow_add]
  exact Nat.lt_of_lt_of_le Nat.lt_log2_self (Nat.pow_le_pow_right (by decide) (by omega))

/-- **Rounding gives zero or a finite number** of 53 bits, which is at most doubled. It may be too
large for a double. -/
theorem roundWithAccuracy_cases (s : Sign) (m : ℕ) (e : ℤ) (a : Accuracy) :
    roundWithAccuracy .binary64 s m e a = .zero s ∨
      ∃ m' e' hm, roundWithAccuracy .binary64 s m e a = .finite s m' e' hm ∧ m' < 2 ^ 53 ∧
        -1074 ≤ e' ∧ ∀ b, m.log2 + e ≤ b → -1074 ≤ b → m'.log2 + e' ≤ b + 1 := by
  unfold roundWithAccuracy
  generalize hfirst : shiftToTargetExponent .binary64 m e a = first
  obtain ⟨k, hmantissa, hexponent, -, -, htarget⟩ := hfirst ▸ exists_shift m e a
  obtain ⟨l, hmantissa', hexponent', hlog, hleast, -⟩ :=
    exists_shift first.1.roundedMantissa first.2 .exact
  dsimp only
  by_cases hne : (shiftToTargetExponent .binary64 first.1.roundedMantissa first.2
      .exact).1.mantissa = 0
  · exact Or.inl (dif_pos hne)
  · refine Or.inr ⟨_, _, Nat.pos_of_ne_zero hne, dif_neg hne, ?_, ?_, fun b hb hmin => ?_⟩
    · rw [hmantissa']
      exact shift_lt hlog
    · rwa [hexponent']
    · -- rounding up gives one more bit at most, and shifts keep the size
      have hround := roundedMantissa_le first.1
      rw [hmantissa'] at hne
      have hsecond := log2_div_add_le hne
      rw [Nat.log2_two_pow] at hsecond
      rw [hmantissa', hexponent']
      by_cases hzero : m / 2 ^ k = 0
      · have hbit : first.1.roundedMantissa.log2 ≤ 0 := log2_le_of_lt (by omega)
        omega
      · have hdropped := log2_div_add_le hzero
        rw [Nat.log2_two_pow] at hdropped
        have hbits : first.1.roundedMantissa.log2 ≤ (m / 2 ^ k).log2 + 1 := by
          refine log2_le_of_lt ?_
          have := Nat.lt_log2_self (n := m / 2 ^ k)
          have := Nat.pow_lt_pow_right (a := 2) (by decide)
            (Nat.lt_succ_self ((m / 2 ^ k).log2 + 1))
          omega
        omega

/-- Dropping bits below the leading one moves it down. -/
theorem log2_div_two_pow (hm : m ≠ 0) (hk : k ≤ m.log2) :
    m / 2 ^ k ≠ 0 ∧ (m / 2 ^ k).log2 + k = m.log2 := by
  have hpow : 2 ^ k ≤ m := (Nat.le_log2 hm).1 hk
  have hne : m / 2 ^ k ≠ 0 := (Nat.div_pos hpow (Nat.two_pow_pos k)).ne'
  have hlog : (m / 2 ^ k).log2 = m.log2 - k := by
    rw [Nat.log2_eq_iff hne, Nat.le_div_iff_mul_le (Nat.two_pow_pos k),
      Nat.div_lt_iff_lt_mul (Nat.two_pow_pos k), ← Nat.pow_add, ← Nat.pow_add]
    refine ⟨?_, ?_⟩
    · rw [Nat.sub_add_cancel hk]
      exact Nat.log2_self_le hm
    · rw [Nat.add_right_comm, Nat.sub_add_cancel hk]
      exact Nat.lt_log2_self
  omega

theorem le_roundedMantissa (em : ExtendedMantissa) : em.mantissa ≤ em.roundedMantissa := by
  obtain ⟨m, r, s⟩ := em
  cases r <;> cases s <;>
    simp only [ExtendedMantissa.roundedMantissa, ExtendedMantissa.accuracy,
      Accuracy.roundToNearestEven] <;> omega

/-- The bits that are dropped leave the leading one, if that is not below the least exponent. -/
theorem exists_shift_of_le (hm : m ≠ 0) (he : -1074 ≤ m.log2 + e) (a : Accuracy) : ∃ k : ℕ,
    (shiftToTargetExponent .binary64 m e a).1.mantissa = m / 2 ^ k ∧
      (shiftToTargetExponent .binary64 m e a).2 = e + k ∧ m / 2 ^ k ≠ 0 ∧
      ((m / 2 ^ k).log2 : ℤ) + (e + k) = m.log2 + e ∧
      (52 ≤ m.log2 → -1022 ≤ m.log2 + e → 52 ≤ (m / 2 ^ k).log2) := by
  obtain ⟨k, hmantissa, hexponent, hlog, hleast, htarget⟩ := exists_shift m e a
  have hk : k ≤ m.log2 := by omega
  obtain ⟨hne, hdropped⟩ := log2_div_two_pow hm hk
  exact ⟨k, hmantissa, hexponent, hne, by omega, by omega⟩

/-- **A number that is not too small is not rounded to zero,** and its leading bit does not move
down. -/
theorem exists_roundWithAccuracy (hm : m ≠ 0) (he : -1074 ≤ m.log2 + e) : ∃ m' e' hm',
    roundWithAccuracy .binary64 s m e a = .finite s m' e' hm' ∧ m.log2 + e ≤ m'.log2 + e' ∧
      (52 ≤ m.log2 → -1022 ≤ m.log2 + e → 2 ^ 52 ≤ m') := by
  unfold roundWithAccuracy
  generalize hfirst : shiftToTargetExponent .binary64 m e a = first
  obtain ⟨k, hmantissa, hexponent, hne, hsize, hnormal⟩ := hfirst ▸ exists_shift_of_le hm he a
  have hround := le_roundedMantissa first.1
  rw [hmantissa] at hround
  have hne' : first.1.roundedMantissa ≠ 0 := by omega
  have hlog : (m / 2 ^ k).log2 ≤ first.1.roundedMantissa.log2 :=
    (Nat.le_log2 hne').2 ((Nat.log2_self_le hne).trans hround)
  obtain ⟨l, hmantissa', hexponent', hne'', hsize', hnormal'⟩ :=
    exists_shift_of_le (e := first.2) hne' (by omega) .exact
  dsimp only
  rw [dif_neg (by rw [hmantissa']; exact hne'')]
  refine ⟨_, _, _, rfl, ?_, fun h h' => ?_⟩
  · rw [hmantissa', hexponent']
    omega
  · rw [hmantissa']
    exact (Nat.le_log2 hne'').1 (hnormal' (by omega) (by omega))

/-- **What rounding leaves behind:** a significand of at most 53 bits, and an exponent that is not
too small. -/
def Rounded : UnpackedFloat → Prop
  | .finite _ m e _ => m < 2 ^ 53 ∧ -1074 ≤ e
  | _ => True

/-- **A rounded finite number that is less than `2 ^ (b + 1)` in size.** -/
def Bounded (b : ℤ) : UnpackedFloat → Prop
  | .zero _ => True
  | .finite _ m e _ => m < 2 ^ 53 ∧ -1074 ≤ e ∧ m.log2 + e ≤ b
  | _ => False

instance (b : ℤ) : (u : UnpackedFloat) → Decidable (Bounded b u)
  | .zero _ => inferInstanceAs (Decidable True)
  | .finite _ m e _ => inferInstanceAs (Decidable (m < 2 ^ 53 ∧ -1074 ≤ e ∧ m.log2 + e ≤ b))
  | .infinity _ | .notANumber => inferInstanceAs (Decidable False)

theorem Bounded.isNaN (h : Bounded b u) : u.isNaN = false := by
  cases u <;> first | rfl | exact h.elim

theorem Bounded.isInf (h : Bounded b u) : u.isInf = false := by
  cases u <;> first | rfl | exact h.elim

theorem Bounded.isFinite (h : Bounded b u) : u.isFinite = true := by
  cases u <;> first | rfl | exact h.elim

theorem Bounded.mono (hbc : b ≤ c) (h : Bounded b u) : Bounded c u := by
  cases u with
  | finite s m e hm => exact ⟨h.1, h.2.1, h.2.2.trans hbc⟩
  | _ => exact h

theorem isNaN_roundWithAccuracy : (roundWithAccuracy .binary64 s m e a).isNaN = false := by
  rcases roundWithAccuracy_cases s m e a with h | ⟨m', e', hm, h, -⟩ <;> rw [h] <;> rfl

theorem rounded_roundWithAccuracy : Rounded (roundWithAccuracy .binary64 s m e a) := by
  rcases roundWithAccuracy_cases s m e a with h | ⟨m', e', hm, h, hlt, hge, -⟩ <;> rw [h]
  · trivial
  · exact ⟨hlt, hge⟩

theorem bounded_roundWithAccuracy (hm : m.log2 + e ≤ b) (hb : -1074 ≤ b) :
    Bounded (b + 1) (roundWithAccuracy .binary64 s m e a) := by
  rcases roundWithAccuracy_cases s m e a with h | ⟨m', e', hm', h, hlt, hge, hle⟩ <;> rw [h]
  · trivial
  · exact ⟨hlt, hge, hle b hm hb⟩

/-! ## Products and quotients -/

theorem bounded_mul (hu : Bounded b u) (hv : Bounded c v) (hbc : -1075 ≤ b + c) :
    Bounded (b + c + 2) (mul .binary64 u v) := by
  cases u with
  | zero s => cases v <;> trivial
  | finite s m e hm =>
    cases v with
    | zero s' => trivial
    | finite s' m' e' hm' =>
      have hsize : m.log2 + e ≤ b := hu.2.2
      have hsize' : m'.log2 + e' ≤ c := hv.2.2
      have hlog := log2_mul_le m m'
      have hround : Bounded (b + c + 1 + 1)
          (roundWithAccuracy .binary64 (s * s') (m * m') (e + e') .exact) :=
        bounded_roundWithAccuracy (by omega) (by omega)
      exact hround.mono (by omega)
    | _ => exact hv.elim
  | _ => exact hu.elim

/-- A quotient is at most as large as the sizes of its parts say. -/
theorem bounded_div (hu : Bounded b u) {s' : Sign} {m' : ℕ} {e' : ℤ} {hm' : 0 < m'}
    (hc : c ≤ m'.log2 + e') (hbc : -1074 ≤ b - c) :
    Bounded (b - c + 1) (div .binary64 u (.finite s' m' e' hm')) := by
  cases u with
  | zero s => trivial
  | finite s m e hm =>
    have hsize : m.log2 + e ≤ b := hu.2.2
    change Bounded _ (roundWithAccuracy .binary64 _ (divCore .binary64 m e m' e').1
      (divCore .binary64 m e m' e').2.1 (divCore .binary64 m e m' e').2.2)
    refine bounded_roundWithAccuracy ?_ hbc
    simp only [divCore, targetExponent_eq, totalExponent]
    generalize htarget :
      min (e - e') (max ((m.log2 : ℤ) + 1 + e - (m'.log2 + 1 + e') - 53) (-1074)) = target
    by_cases hzero : m <<< (e - e' - target).toNat / m' = 0
    · rw [hzero, Nat.log2_zero]
      omega
    · have hquotient := log2_div_add_le hzero
      have hshift := log2_shiftLeft_le m (e - e' - target).toNat
      omega
  | _ => exact hu.elim

end Rounding

end ValuedGraph
