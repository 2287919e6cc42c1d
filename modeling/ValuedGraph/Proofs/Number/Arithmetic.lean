import ValuedGraph.Proofs.Number.Doubles

/-!
# Sums and quotients of doubles

What arithmetic gives for finite doubles of known sizes, and what it gives for the others: a sum
with an item that is not finite is not finite, and numbers that differ do not have the difference
zero.

* `Rounding.bounded_add`: the size of a sum.
* `exists_ofQuotient`: **a small quotient of integers is a small double.**
* `isFinite_add`: infinities and NaN stay in a sum.
* `sub_beq_zero`: **different numbers have a difference,** down to the smallest ones.
-/

namespace ValuedGraph

open Float.Model Float.Model.UnpackedFloat

namespace Rounding

variable {u v : UnpackedFloat} {b e : ℤ} {m k : ℕ}

/-- A shifted number that is less than `2 ^ (b + 1)` in size. -/
theorem shiftLeft_lt {t : ℤ} (h : m.log2 + e ≤ b) (ht : t ≤ e) :
    m <<< (e - t).toNat < 2 ^ ((b - t).toNat + 1) := by
  have hlog := log2_shiftLeft_le m (e - t).toNat
  calc m <<< (e - t).toNat < 2 ^ ((m <<< (e - t).toNat).log2 + 1) := Nat.lt_log2_self
    _ ≤ 2 ^ ((b - t).toNat + 1) := Nat.pow_le_pow_right (by decide) (by omega)

theorem natAbs_apply (s : Sign) (m : ℕ) : (s.apply m).natAbs = m := by
  cases s <;> simp [Sign.apply]

/-- **The sum of two numbers of a size** has one more bit at most, and another one from rounding. -/
theorem bounded_add (hu : Bounded b u) (hv : Bounded b v) (hb : -1074 ≤ b) :
    Bounded (b + 2) (UnpackedFloat.add .binary64 u v) := by
  cases u with
  | zero s =>
    cases v with
    | zero s' =>
      simp only [UnpackedFloat.add]
      split <;> trivial
    | finite s' m' e' hm' => exact hv.mono (by omega)
    | _ => exact hv.elim
  | finite s m e hm =>
    cases v with
    | zero s' => exact hu.mono (by omega)
    | finite s' m' e' hm' =>
      have hlt := shiftLeft_lt hu.2.2 (min_le_left e e')
      have hlt' := shiftLeft_lt hv.2.2 (min_le_right e e')
      have hmin : min e e' ≤ b := by
        have hsize : m.log2 + e ≤ b := hu.2.2
        omega
      simp only [UnpackedFloat.add, decreaseExponent]
      generalize m <<< (e - min e e').toNat = l at hlt
      generalize m' <<< (e' - min e e').toNat = r at hlt'
      have hsum : (s.apply l + s'.apply r).natAbs ≤ l + r := by
        have := Int.natAbs_add_le (s.apply l) (s'.apply r)
        rwa [natAbs_apply, natAbs_apply] at this
      have hlog : (s.apply l + s'.apply r).natAbs.log2 ≤ (b - min e e').toNat + 1 := by
        refine log2_le_of_lt ?_
        rw [Nat.pow_succ]
        omega
      have hnormal := bounded_normalize (b := b + 1) (e := min e e') (s := .positive)
        (i := s.apply l + s'.apply r) (by omega) (by omega)
      exact hnormal.mono (by omega)
    | _ => exact hv.elim
  | _ => exact hu.elim

/-- A quotient by a number that has at least a known size, or by an infinity. -/
theorem bounded_div_of_le {c : ℤ} (hu : Bounded b u) (hbc : -1074 ≤ b - c)
    (hv : v = .infinity .positive ∨
      ∃ s m e hm, v = .finite s m e hm ∧ c ≤ m.log2 + e) :
    Bounded (b - c + 1) (div .binary64 u v) := by
  rcases hv with rfl | ⟨s, m, e, hm, rfl, hc⟩
  · cases u with
    | zero | finite => trivial
    | _ => exact hu.elim
  · exact bounded_div hu hc hbc

/-- **A large natural number** is not smaller as a double, and it may be infinite. -/
theorem unpack_ofNat_of_le {n : ℕ} (hn : 2 ^ 53 ≤ n) :
    (Float.ofNat n).toModel.unpack = .infinity .positive ∨
      ∃ s m e hm, (Float.ofNat n).toModel.unpack = .finite s m e hm ∧ n.log2 ≤ m.log2 + e := by
  obtain ⟨m, e, hsize, hlarge, heq⟩ := exists_ofNat_eq (by omega : ¬ n < 2 ^ 53)
  have hm : m ≠ 0 := by
    rintro rfl
    simp at hlarge
  obtain ⟨m', e', hm', hround, hle, hnormal⟩ :=
    exists_roundWithAccuracy (s := .positive) (a := .exact) hm (by omega : -1074 ≤ m.log2 + e)
  have hrounded := rounded_roundWithAccuracy (s := .positive) (m := m) (e := e) (a := .exact)
  rw [hround] at hrounded
  rw [heq, hround, unpack_pack_finite hrounded.1 hrounded.2]
  split
  · exact Or.inl rfl
  · rw [if_pos (hnormal (by omega) (by omega))]
    exact Or.inr ⟨.positive, m', e', hm', rfl, by omega⟩

end Rounding

open Rounding

/-! ## Quotients of integers -/

/-- The shift that a quotient of at most 255 is taken after, and the bits that it has then. -/
theorem quotient_shift {n den : ℕ} (hden : 0 < den) (h : n ≤ 255 * den) :
    58 ≤ 66 + den.log2 - n.log2 ∧ n * 2 ^ (66 + den.log2 - n.log2) / den < 2 ^ 67 := by
  have hlog : n.log2 ≤ den.log2 + 8 := by
    have hdenlog := Nat.lt_log2_self (n := den)
    refine log2_le_of_lt ?_
    rw [Nat.add_right_comm, Nat.pow_add]
    omega
  refine ⟨by omega, ?_⟩
  rw [Nat.div_lt_iff_lt_mul hden]
  calc n * 2 ^ (66 + den.log2 - n.log2)
      < 2 ^ (n.log2 + 1) * 2 ^ (66 + den.log2 - n.log2) :=
        Nat.mul_lt_mul_of_pos_right Nat.lt_log2_self (Nat.two_pow_pos _)
    _ = 2 ^ 67 * 2 ^ den.log2 := by
      rw [← Nat.pow_add, ← Nat.pow_add]
      congr 1
      omega
    _ ≤ 2 ^ 67 * den := Nat.mul_le_mul_left _ (Nat.log2_self_le hden.ne')

/-- **A small quotient of integers is a small double.** -/
theorem exists_ofQuotient {num : ℤ} {den : ℕ} (hden : 0 < den) (h : num.natAbs ≤ 255 * den) :
    ∃ x, ofQuotient num den = .ok x ∧ Bounded 12 x.toModel.unpack := by
  obtain ⟨hshift, hbits⟩ := quotient_shift hden h
  unfold ofQuotient
  dsimp only
  change 58 ≤ 66 + den.log2 - num.natAbs.log2 at hshift
  generalize 66 + den.log2 - num.natAbs.log2 = shift at hshift hbits
  change num.natAbs * Nat.pow 2 shift / den < 2 ^ 67 at hbits
  -- the bit that says whether anything is left does not make the quotient any longer
  have hor : num.natAbs * Nat.pow 2 shift / den |||
      (if num.natAbs * Nat.pow 2 shift % den = 0 then 0 else 1) < 2 ^ 67 :=
    Nat.or_lt_two_pow hbits (by split <;> decide)
  generalize (num.natAbs * Nat.pow 2 shift / den |||
    (if num.natAbs * Nat.pow 2 shift % den = 0 then 0 else 1)) = bits at hor
  have hlog : bits.log2 ≤ 66 := log2_le_of_lt hor
  have hpow : 2 ^ 53 ≤ Nat.pow 2 shift := Nat.pow_le_pow_right (by decide) (by omega)
  have hsize : Bounded 12 (Float.ofNat bits / Float.ofNat (Nat.pow 2 shift)).toModel.unpack := by
    refine bounded_pack (bounded_div_of_le (b := 69) (c := 58) ?_ (by omega) ?_) (by omega) (by omega)
    · exact (bounded_ofNat (by omega)).mono (by omega)
    · refine (unpack_ofNat_of_le hpow).imp_right ?_
      rintro ⟨s, m, e, hm, heq, hle⟩
      refine ⟨s, m, e, hm, heq, ?_⟩
      have hshiftlog : (Nat.pow 2 shift).log2 = shift := Nat.log2_two_pow
      omega
  have hfinite : (Float.ofNat bits / Float.ofNat (Nat.pow 2 shift)).isInf = false := hsize.isInf
  rw [hfinite]
  refine ⟨_, rfl, ?_⟩
  split
  · exact bounded_pack (bounded_neg hsize) (by omega) (by omega)
  · exact hsize

/-! ## Numbers that are not finite -/

/-- **Infinities and NaN stay in a sum.** -/
theorem isFinite_add {x y : Float} (h : x.isFinite = false ∨ y.isFinite = false) :
    (x + y).isFinite = false := by
  change x.toModel.unpack.isFinite = false ∨ y.toModel.unpack.isFinite = false at h
  change (Float.Model.pack (UnpackedFloat.add .binary64 x.toModel.unpack y.toModel.unpack)).unpack.isFinite
    = false
  generalize x.toModel.unpack = u at h
  generalize y.toModel.unpack = v at h
  have hsum : (UnpackedFloat.add .binary64 u v).isFinite = false := by
    cases u with
    | infinity s =>
      cases v with
      | infinity s' => cases s <;> cases s' <;> rfl
      | _ => rfl
    | notANumber => rfl
    | zero | finite =>
      cases v with
      | infinity | notANumber => rfl
      | _ => simp [UnpackedFloat.isFinite] at h
  rw [unpack_pack_of_special]
  · exact hsum
  · intro s m e hm heq
    rw [heq] at hsum
    cases hsum

/-- **Doubles are known by what they stand for.** -/
theorem eq_of_unpack_eq {x y : Float} (h : x.toModel.unpack = y.toModel.unpack) : x = y := by
  rw [← Float.toBits_inj, ← UInt64.toBitVec_inj]
  exact (unpack_inj_of_valid x.toModel.valid y.toModel.valid).1 h

/-- An infinity is one of the two. -/
theorem eq_infinity {x : Float} (h : x.isInf = true) : x = infinity ∨ x = -infinity := by
  change x.toModel.unpack.isInf = true at h
  cases hx : x.toModel.unpack with
  | infinity s =>
    cases s with
    | positive => exact Or.inl (eq_of_unpack_eq (hx.trans rfl))
    | negative => exact Or.inr (eq_of_unpack_eq (hx.trans rfl))
  | _ =>
    rw [hx] at h
    cases h

/-- Only finite numbers are zero. -/
theorem beq_zero_of_not_isFinite {x : Float} (h : x.isFinite = false) : (x == 0.0) = false := by
  change x.toModel.unpack.isFinite = false at h
  change x.toModel.unpack.beq (0.0 : Float).toModel.unpack = false
  have hzero : (0.0 : Float).toModel.unpack = .zero .positive := by rfl
  rw [hzero]
  cases hx : x.toModel.unpack with
  | infinity s => cases s <;> rfl
  | notANumber => rfl
  | zero | finite =>
    rw [hx] at h
    cases h

/-! ## Differences -/

/-- A double has all 53 bits, or the least exponent. -/
theorem normal_unpack {x : Float.Model} {s : Sign} {m : ℕ} {e : ℤ} {hm : 0 < m}
    (h : x.unpack = .finite s m e hm) : m < 2 ^ 53 ∧ -1074 ≤ e ∧ (2 ^ 52 ≤ m ∨ e = -1074) := by
  have hrounded := rounded_unpack x
  rw [h] at hrounded
  refine ⟨hrounded.1, hrounded.2, ?_⟩
  clear hrounded
  unfold Float.Model.unpack UnpackedFloat.unpack at h
  dsimp only at h
  split at h
  · split at h <;> cases h
  · split at h
    · split at h
      · cases h
      · rename_i hexponent _
        cases h
        right
        rw [hexponent]
        rfl
    · cases h
      left
      rw [toNat_append_one]
      omega

theorem shiftLeft_pos {m k : ℕ} (hm : 0 < m) : 0 < m <<< k := by
  rw [Nat.shiftLeft_eq]
  exact Nat.mul_pos hm (Nat.two_pow_pos k)

/-- Rounding does not make zero of a positive number. -/
theorem round_ne_zero {s s' : Sign} {m : ℕ} {e : ℤ} (hm : 0 < m) (he : -1074 ≤ e) :
    UnpackedFloat.round .binary64 s m e ≠ .zero s' := by
  unfold UnpackedFloat.round decreaseExponent
  dsimp only
  generalize (e - Format.binary64.targetExponent (totalExponent m e)).toNat = k
  have hlog := log2_shiftLeft hm.ne' k
  obtain ⟨m', e', hm', hround, -⟩ := exists_roundWithAccuracy (s := s) (a := .exact)
    (shiftLeft_pos hm).ne'     (by omega : -1074 ≤ (m <<< k).log2 + (e - k))
  rw [hround]
  nofun

theorem normalize_eq_zero {s s' : Sign} {i e : ℤ} (he : -1074 ≤ e)
    (h : UnpackedFloat.normalize .binary64 i e s = .zero s') : i = 0 := by
  unfold UnpackedFloat.normalize at h
  split at h
  · rename_i hi
    rw [Int.compare_eq_lt] at hi
    exact absurd h (round_ne_zero (by omega) he)
  · rename_i hi
    exact Int.compare_eq_eq.1 hi
  · rename_i hi
    rw [Int.compare_eq_gt] at hi
    exact absurd h (round_ne_zero (by omega) he)

/-- Shifted to a common exponent, numbers with all their bits only agree if they are the same. -/
theorem eq_of_shiftLeft_eq {m m' : ℕ} {e e' : ℤ} (hm : m < 2 ^ 53) (hm' : 2 ^ 52 ≤ m' ∨ e' = -1074)
    (he : -1074 ≤ e) (hle : e ≤ e') (h : m = m' <<< (e' - e).toNat) : m = m' ∧ e = e' := by
  rw [Nat.shiftLeft_eq] at h
  by_cases heq : e = e'
  · subst heq
    simpa using h
  · have hpow : 2 ^ 1 ≤ 2 ^ (e' - e).toNat := Nat.pow_le_pow_right (by decide) (by omega)
    have hmul := Nat.mul_le_mul_left m' hpow
    omega

/-- Signed numbers that are not zero agree in sign and in size. -/
theorem eq_of_apply_eq {s s' : Sign} {m m' : ℕ} (hm : 0 < m)
    (h : s.apply m = s'.apply m') : s = s' ∧ m = m' := by
  cases s <;> cases s' <;> simp [Sign.apply] at h ⊢ <;> omega

/-- Doubles whose difference is zero are the same number. -/
theorem beq_of_sub_eq_zero {x y : Float.Model} {s : Sign}
    (h : UnpackedFloat.sub .binary64 x.unpack y.unpack = .zero s) :
    x.unpack.beq y.unpack = true := by
  rw [beq_iff_ne_notANumber_and_eq]
  cases hx : x.unpack with
  | notANumber => simp [hx, UnpackedFloat.sub] at h
  | infinity s' =>
    cases hy : y.unpack <;> simp [hx, hy, UnpackedFloat.sub] at h
    split at h <;> cases h
  | zero s' =>
    cases hy : y.unpack with
    | zero s'' => cases s' <;> cases s'' <;> simp
    | _ => simp [hx, hy, UnpackedFloat.sub] at h
  | finite s' m e hm =>
    cases hy : y.unpack with
    | finite s'' m' e' hm' =>
      obtain ⟨hlt, he, hnormal⟩ := normal_unpack hx
      obtain ⟨hlt', he', hnormal'⟩ := normal_unpack hy
      simp only [hx, hy, UnpackedFloat.sub, decreaseExponent] at h
      obtain ⟨rfl, hshifted⟩ := eq_of_apply_eq (shiftLeft_pos hm)
        (Int.sub_eq_zero.1 (normalize_eq_zero (by omega) h))
      -- the operand with the larger exponent is the one that was shifted
      have hsame : m = m' ∧ e = e' := by
        rcases le_total e e' with hle | hle
        · refine eq_of_shiftLeft_eq hlt hnormal' he hle ?_
          simpa [min_eq_left hle] using hshifted
        · refine (eq_of_shiftLeft_eq hlt' hnormal he' hle ?_).imp Eq.symm Eq.symm
          simpa [min_eq_right hle] using hshifted.symm
      obtain ⟨rfl, rfl⟩ := hsame
      simp
    | _ => simp [hx, hy, UnpackedFloat.sub] at h

theorem rounded_normalize {i e : ℤ} {s : Sign} :
    Rounded (UnpackedFloat.normalize .binary64 i e s) := by
  unfold UnpackedFloat.normalize UnpackedFloat.round
  split
  · exact rounded_roundWithAccuracy
  · trivial
  · exact rounded_roundWithAccuracy

theorem rounded_sub {u v : UnpackedFloat} (hu : Rounded u) (hv : Rounded v) :
    Rounded (UnpackedFloat.sub .binary64 u v) := by
  cases u with
  | finite s m e hm =>
    cases v with
    | finite s' m' e' hm' => exact rounded_normalize
    | zero => exact hu
    | infinity | notANumber => trivial
  | zero s =>
    cases v with
    | finite s' m' e' hm' => exact hv
    | zero s' => cases s <;> cases s' <;> trivial
    | infinity | notANumber => trivial
  | infinity s =>
    cases v with
    | infinity s' => cases s <;> cases s' <;> trivial
    | _ => trivial
  | notANumber => trivial

/-- Only zero is packed as zero. -/
theorem eq_zero_of_unpack_pack {u : UnpackedFloat} {s : Sign} (hu : Rounded u)
    (h : (Float.Model.pack u).unpack = .zero s) : u = .zero s := by
  cases u with
  | finite s' m e hm =>
    rw [unpack_pack_finite hu.1 hu.2] at h
    split at h <;> cases h
  | _ => rwa [unpack_pack_of_special (by simp)] at h

/-- **Numbers that differ have a difference that is not zero.** -/
theorem sub_beq_zero {x y : Float} (h : (x == y) = false) : (x - y == 0.0) = false := by
  rw [Bool.eq_false_iff] at h ⊢
  refine fun hzero => h ?_
  change (Float.Model.pack (UnpackedFloat.sub .binary64 x.toModel.unpack y.toModel.unpack)).unpack.beq
    (.zero .positive) = true at hzero
  obtain ⟨s, hs⟩ : ∃ s, (Float.Model.pack
      (UnpackedFloat.sub .binary64 x.toModel.unpack y.toModel.unpack)).unpack = .zero s := by
    rw [beq_iff_ne_notANumber_and_eq] at hzero
    rcases hzero.2.2 with h | ⟨h, -⟩ | ⟨h, -⟩ <;> exact ⟨_, h⟩
  exact beq_of_sub_eq_zero
    (eq_zero_of_unpack_pack (rounded_sub (rounded_unpack _) (rounded_unpack _)) hs)

end ValuedGraph
