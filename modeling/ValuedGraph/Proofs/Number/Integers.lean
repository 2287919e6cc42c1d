import ValuedGraph.Proofs.Number.Arithmetic

/-!
# Integers that are doubles

An integer of at most 53 bits is a double, and nothing is lost on the way: its significand is the
integer itself, shifted until its leading bit is in place. So such integers are in the same order
as doubles.

* `Rounding.roundWithAccuracy_shiftLeft`: a significand in its place is not rounded.
* `unpack_ofInt`: **the double of an integer.**
* `ofInt_lt_ofInt`, `ofInt_le_ofInt`: **the order of integers.**
-/

namespace ValuedGraph

open Float.Model Float.Model.UnpackedFloat

namespace Rounding

variable {m n k : ℕ} {e : ℤ} {s : Sign}

/-! ## Shifts that drop nothing -/

theorem log2_of_normal (hm : 2 ^ 52 ≤ m) (hm' : m < 2 ^ 53) : m.log2 = 52 :=
  (Nat.log2_eq_iff (by omega)).2 ⟨hm, hm'⟩

/-- Zeros are dropped without a trace. -/
theorem mk_shiftLeft_shiftRight (m k : ℕ) :
    (ExtendedMantissa.mk (m <<< k) false false) >>> k = ⟨m, false, false⟩ := by
  induction k generalizing m with
  | zero => rfl
  | succ k ih =>
    have hshift : m <<< (k + 1) = (2 * m) <<< k := by
      rw [Nat.shiftLeft_eq, Nat.shiftLeft_eq, Nat.pow_succ']
      ring
    have hhalf : 2 * m / 2 = m := by omega
    change (ExtendedMantissa.mk (m <<< (k + 1)) false false >>> k).shiftRightOne = _
    rw [hshift, ih, ExtendedMantissa.shiftRightOne, hhalf]
    simp

theorem shiftToTargetExponent_shiftLeft (hm : 2 ^ 52 ≤ m) (hm' : m < 2 ^ 53) (he : -1074 ≤ e + k) :
    shiftToTargetExponent .binary64 (m <<< k) e .exact = (⟨m, false, false⟩, e + k) := by
  have hlog := log2_shiftLeft (by omega : m ≠ 0) k
  have htotal : (max (((m <<< k).log2 : ℤ) + 1 + e - 53) (-1074) - e).toNat = k := by
    rw [hlog, log2_of_normal hm hm']
    omega
  unfold shiftToTargetExponent shiftToExponent
  simp only [targetExponent_eq, totalExponent, htotal, ExtendedMantissa.ofMantissaAndAccuracy,
    mk_shiftLeft_shiftRight]

/-- **A significand in its place is not rounded,** only the zeros behind it are dropped. -/
theorem roundWithAccuracy_shiftLeft (hm : 2 ^ 52 ≤ m) (hm' : m < 2 ^ 53) (he : -1074 ≤ e + k) :
    roundWithAccuracy .binary64 s (m <<< k) e .exact =
      .finite s m (e + k) (Nat.lt_of_lt_of_le (by decide) hm) := by
  have hfirst := shiftToTargetExponent_shiftLeft hm hm' he
  have hsecond := shiftToTargetExponent_shiftLeft (k := 0) hm hm' (by omega : -1074 ≤ e + k + (0 : ℕ))
  rw [Nat.shiftLeft_zero] at hsecond
  have hround : (ExtendedMantissa.mk m false false).roundedMantissa = m := rfl
  unfold roundWithAccuracy
  simp only [hfirst, hround, hsecond]
  rw [dif_neg (by omega)]
  simp

/-! ## The significand of an integer -/

/-- **The significand of a natural number:** its leading bit is the one of 53. -/
def significand (n : ℕ) : ℕ := n <<< (52 - n.log2)

theorem significand_bounds (hn : n ≠ 0) (hlt : n < 2 ^ 53) :
    2 ^ 52 ≤ significand n ∧ significand n < 2 ^ 53 := by
  have hlog : n.log2 ≤ 52 := log2_le_of_lt hlt
  have hbits := log2_shiftLeft hn (52 - n.log2)
  have hne : n <<< (52 - n.log2) ≠ 0 := by
    rw [Nat.shiftLeft_eq]
    exact Nat.mul_ne_zero hn (Nat.two_pow_pos _).ne'
  exact (Nat.log2_eq_iff hne).1 (by omega)

theorem significand_pos (hn : n ≠ 0) (hlt : n < 2 ^ 53) : 0 < significand n :=
  Nat.lt_of_lt_of_le (by decide) (significand_bounds hn hlt).1

/-- **The number** with a significand in its place, whose last bit counts `2 ^ e`. -/
theorem unpack_pack_normal {hm : 0 < m} (hnormal : 2 ^ 52 ≤ m) (hlt : m < 2 ^ 53)
    (he : -1074 ≤ e) (he' : e ≤ 971) :
    (Float.Model.pack (.finite s m e hm)).unpack = .finite s m e hm := by
  rw [unpack_pack_finite hlt he, if_neg (by omega), if_pos hnormal]

/-- To multiply by one changes nothing. -/
theorem mul_one_of_normal {hm : 0 < m} (hnormal : 2 ^ 52 ≤ m) (hlt : m < 2 ^ 53)
    (he : -1074 ≤ e) : mul .binary64 (.finite .positive m e hm)
      (.finite .positive (2 ^ 52) (-52) (by decide)) = .finite .positive m e hm := by
  have hshift : m * 2 ^ 52 = m <<< 52 := (Nat.shiftLeft_eq m 52).symm
  change roundWithAccuracy .binary64 .positive (m * 2 ^ 52) (e + -52) .exact = _
  rw [hshift, roundWithAccuracy_shiftLeft hnormal hlt (by omega)]
  congr 1
  omega

/-- A natural number of at most 53 bits is only shifted. -/
theorem round_natural (hn : n ≠ 0) (hlt : n < 2 ^ 53) : UnpackedFloat.round .binary64 s n 0 =
    .finite s (significand n) (n.log2 - 52) (significand_pos hn hlt) := by
  obtain ⟨hm, hm'⟩ := significand_bounds hn hlt
  have hlog : n.log2 ≤ 52 := log2_le_of_lt hlt
  have hshift : (0 - max ((n.log2 : ℤ) + 1 + 0 - 53) (-1074)).toNat = 52 - n.log2 := by omega
  have hexact := roundWithAccuracy_shiftLeft (s := s) (k := 0) (e := 0 - (52 - n.log2 : ℕ))
    hm hm' (by omega)
  rw [Nat.shiftLeft_zero] at hexact
  unfold UnpackedFloat.round decreaseExponent
  simp only [targetExponent_eq, totalExponent, hshift]
  refine hexact.trans ?_
  congr 1
  omega

end Rounding

open Rounding

/-- A word of at most 53 bits as a double. -/
theorem unpack_toFloat {n : ℕ} (hn : n ≠ 0) (hlt : n < 2 ^ 53) :
    n.toUInt64.toFloat.toModel.unpack =
      .finite .positive (significand n) (n.log2 - 52) (significand_pos hn hlt) := by
  obtain ⟨hm, hm'⟩ := significand_bounds hn hlt
  have hlog : n.log2 ≤ 52 := log2_le_of_lt hlt
  change (Float.Model.pack (UnpackedFloat.ofUInt64 .binary64 n.toUInt64)).unpack = _
  unfold UnpackedFloat.ofUInt64 UnpackedFloat.ofNat UnpackedFloat.ofInt UnpackedFloat.normalize
  rw [toNat_toUInt64 hlt, Int.compare_eq_gt.2 (by omega : (0 : ℤ) < n)]
  change (Float.Model.pack (UnpackedFloat.round .binary64 .positive n 0)).unpack = _
  rw [round_natural hn hlt, unpack_pack_normal hm hm' (by omega) (by omega)]

/-- **The double of a natural number** of at most 53 bits. -/
theorem unpack_ofNat {n : ℕ} (hn : n ≠ 0) (hlt : n < 2 ^ 53) : (Float.ofNat n).toModel.unpack =
    .finite .positive (significand n) (n.log2 - 52) (significand_pos hn hlt) := by
  obtain ⟨hm, hm'⟩ := significand_bounds hn hlt
  have hlog : n.log2 ≤ 52 := log2_le_of_lt hlt
  have hone : (Float.ofBits 0x3FF0000000000000).toModel.unpack =
      .finite .positive (2 ^ 52) (-52) (by decide) := by rfl
  rw [ofNat_eq_mul hlt]
  change (Float.Model.pack (mul .binary64 n.toUInt64.toFloat.toModel.unpack
    (Float.ofBits 0x3FF0000000000000).toModel.unpack)).unpack = _
  rw [unpack_toFloat hn hlt, hone, mul_one_of_normal hm hm' (by omega),
    unpack_pack_normal hm hm' (by omega) (by omega)]

/-- A natural number of at most 53 bits is the double of its word. -/
theorem ofNat_eq_toFloat {n : ℕ} (hlt : n < 2 ^ 53) : Float.ofNat n = n.toUInt64.toFloat := by
  rcases Nat.eq_zero_or_pos n with rfl | hn
  · rfl
  · exact eq_of_unpack_eq ((unpack_ofNat hn.ne' hlt).trans (unpack_toFloat hn.ne' hlt).symm)

/-- **The double of an integer** of at most 53 bits, which is not zero: its sign and its
significand. -/
theorem unpack_ofInt {n : ℤ} (hn : n ≠ 0) (hlt : n.natAbs < 2 ^ 53) :
    (Float.ofInt n).toModel.unpack = .finite (if 0 ≤ n then .positive else .negative)
      (significand n.natAbs) (n.natAbs.log2 - 52)
      (significand_pos (Int.natAbs_ne_zero.2 hn) hlt) := by
  cases n with
  | ofNat n => exact unpack_ofNat (Int.natAbs_ne_zero.2 hn) hlt
  | negSucc n =>
    change n + 1 < 2 ^ 53 at hlt
    obtain ⟨hm, hm'⟩ := significand_bounds (Nat.succ_ne_zero n) hlt
    have hlog : n.succ.log2 ≤ 52 := log2_le_of_lt hlt
    change (Float.Model.pack (Float.ofNat (n + 1)).toModel.unpack.neg).unpack = _
    rw [unpack_ofNat (Nat.succ_ne_zero n) hlt]
    change (Float.Model.pack (.finite .negative (significand (n + 1)) _ _)).unpack = _
    rw [unpack_pack_normal hm hm' (by omega) (by omega)]
    rfl

/-! ## Order -/

/-- A number whose leading bit is further up is larger. -/
theorem lt_of_log2_lt {m n : ℕ} (hn : n ≠ 0) (h : m.log2 < n.log2) : m < n := by
  calc m < 2 ^ (m.log2 + 1) := Nat.lt_log2_self
    _ ≤ 2 ^ n.log2 := Nat.pow_le_pow_right (by decide) h
    _ ≤ n := Nat.log2_self_le hn

/-- Numbers are compared by the places of their leading bits, and then by their significands. -/
theorem compare_significand {m n : ℕ} (hm : m ≠ 0) (hn : n ≠ 0) :
    (compare ((m.log2 : ℤ) - 52) (n.log2 - 52)).then (compare (significand m) (significand n)) =
      compare m n := by
  rcases Nat.lt_trichotomy m.log2 n.log2 with h | h | h
  · rw [Int.compare_eq_lt.2 (by omega), Nat.compare_eq_lt.2 (lt_of_log2_lt hn h)]
    rfl
  · rw [h, Int.compare_eq_eq.2 rfl]
    change compare (m <<< (52 - m.log2)) (n <<< (52 - n.log2)) = _
    rw [h, Nat.shiftLeft_eq, Nat.shiftLeft_eq, Nat.compare_eq_ite_lt, Nat.compare_eq_ite_lt]
    simp only [Nat.mul_lt_mul_right (Nat.two_pow_pos _)]
  · rw [Int.compare_eq_gt.2 (by omega), Nat.compare_eq_gt.2 (lt_of_log2_lt hm h)]
    rfl

theorem compare_natAbs {a b : ℤ} (ha : 0 ≤ a) (hb : 0 ≤ b) :
    compare a.natAbs b.natAbs = compare a b := by
  have hlt : a.natAbs < b.natAbs ↔ a < b := by omega
  have hgt : b.natAbs < a.natAbs ↔ b < a := by omega
  rw [Nat.compare_eq_ite_lt, Int.compare_eq_ite_lt, if_congr hlt rfl (if_congr hgt rfl rfl)]

theorem compare_natAbs_neg {a b : ℤ} (ha : a < 0) (hb : b < 0) :
    (compare a.natAbs b.natAbs).swap = compare a b := by
  have hlt : b.natAbs < a.natAbs ↔ a < b := by omega
  have hgt : a.natAbs < b.natAbs ↔ b < a := by omega
  rw [Nat.compare_swap, Nat.compare_eq_ite_lt, Int.compare_eq_ite_lt,
    if_congr hlt rfl (if_congr hgt rfl rfl)]

/-- **Integers of at most 53 bits are compared** as doubles as they are. -/
theorem compare_ofInt {a b : ℤ} (ha : a.natAbs < 2 ^ 53) (hb : b.natAbs < 2 ^ 53) :
    (Float.ofInt a).toModel.unpack.compare (Float.ofInt b).toModel.unpack = some (compare a b) := by
  have hzero : (Float.ofInt 0).toModel.unpack = .zero .positive := by rfl
  by_cases ha0 : a = 0
  · subst ha0
    by_cases hb0 : b = 0
    · subst hb0
      rfl
    · rw [hzero, unpack_ofInt hb0 hb]
      split
      · rw [Int.compare_eq_lt.2 (by omega)]
        rfl
      · rw [Int.compare_eq_gt.2 (by omega)]
        rfl
  · rw [unpack_ofInt ha0 ha]
    by_cases hb0 : b = 0
    · subst hb0
      rw [hzero]
      split
      · rw [Int.compare_eq_gt.2 (by omega)]
        rfl
      · rw [Int.compare_eq_lt.2 (by omega)]
        rfl
    · have hsize := compare_significand (Int.natAbs_ne_zero.2 ha0) (Int.natAbs_ne_zero.2 hb0)
      rw [unpack_ofInt hb0 hb]
      split <;> split
      · exact congrArg some (hsize.trans (compare_natAbs (by omega) (by omega)))
      · rw [Int.compare_eq_gt.2 (by omega)]
        rfl
      · rw [Int.compare_eq_lt.2 (by omega)]
        rfl
      · -- the larger of two negative numbers is the smaller one in size
        change some (Ordering.swap _) = _
        rw [hsize, ← compare_natAbs_neg (by omega) (by omega)]

theorem ofInt_lt_ofInt {a b : ℤ} (ha : a.natAbs < 2 ^ 53) (hb : b.natAbs < 2 ^ 53) :
    Float.ofInt a < Float.ofInt b ↔ a < b := by
  refine decide_eq_true_iff.trans ?_
  change ((Float.ofInt a).toModel.unpack.compare (Float.ofInt b).toModel.unpack == some .lt) = true ↔ _
  rw [compare_ofInt ha hb, ← Int.compare_eq_lt]
  simp

theorem ofInt_le_ofInt {a b : ℤ} (ha : a.natAbs < 2 ^ 53) (hb : b.natAbs < 2 ^ 53) :
    Float.ofInt a ≤ Float.ofInt b ↔ a ≤ b := by
  refine decide_eq_true_iff.trans ?_
  change ((Float.ofInt a).toModel.unpack.compare (Float.ofInt b).toModel.unpack).any
    (·.isLE) = true ↔ _
  rw [compare_ofInt ha hb, Option.any_some, Int.isLE_compare]

end ValuedGraph
