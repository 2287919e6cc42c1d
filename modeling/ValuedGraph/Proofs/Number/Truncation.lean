import ValuedGraph.Proofs.Number.Integers

/-!
# Doubles between integers

The integer that a double becomes is on the same side of any other integer as the double itself. To
say so, a double is compared with integers as the number that it is, a significand times a power of
two. Rounding does not take a number past an integer, either.

* `fraction_eq`: a double as a fraction.
* `toInt_ofInt`: **an integer comes back** from its double.
* `Rounding.lt_significand_iff`, `lt_ofInt_iff`: **a double below an integer,** and what it is
  truncated to.
* `nonneg_of_toInt`, `nonpos_of_toInt`: signs.
* `Rounding.exists_round_le`, `toInt_round_le`: **a number below an integer** is not rounded past it.
-/

namespace ValuedGraph

open Float.Model Float.Model.UnpackedFloat

variable {m n : ℕ} {e : ℤ} {s : Sign} {x : Float}

/-! ## Fractions -/

/-- **The fraction that a number is,** whatever the sign of its exponent is. -/
theorem fraction_eq (m : ℕ) (e : ℤ) : fraction m e = (m * 2 ^ e.toNat, 2 ^ (-e).toNat) := by
  unfold fraction
  split
  · have hnone : (-e).toNat = 0 := by omega
    rw [hnone, Nat.pow_zero]
    rfl
  · have hnone : e.toNat = 0 := by omega
    rw [hnone, Nat.pow_zero, Nat.mul_one]
    rfl

/-- A quotient that is no more than an integer is rounded to no more than it. -/
theorem roundQuotient_le {num den : ℕ} (hden : 0 < den) (h : num ≤ n * den) :
    roundQuotient num den ≤ n := by
  have hle : num / den ≤ n := Nat.div_le_of_le_mul (by rwa [Nat.mul_comm])
  rcases hle.lt_or_eq with hlt | heq
  · simp only [roundQuotient]
    split_ifs <;> omega
  · have hrest : num % den = 0 := by
      have hsplit := Nat.div_add_mod num den
      rw [heq, Nat.mul_comm den n] at hsplit
      omega
    simp only [roundQuotient, hrest]
    rw [if_pos (by omega)]
    exact hle

/-- An integral number goes to itself in every direction. -/
theorem Direction.apply_mul (d : Direction) (negative : Bool) {den : ℕ} (hden : 0 < den) :
    d.apply negative (n * den) den = if negative then -(n : ℤ) else n := by
  have hwhole : n * den / den = n := Nat.mul_div_cancel n hden
  have hrest : n * den % den = 0 := Nat.mul_mod_left n den
  have hround : roundQuotient (n * den) den = n := by
    simp only [roundQuotient, hrest, hwhole]
    rw [if_pos (by omega)]
  unfold Direction.apply
  dsimp only
  rw [hwhole, hrest, hround, if_pos rfl]
  cases d <;> simp

namespace Rounding

theorem significand_eq (n : ℕ) : significand n = n * 2 ^ (52 - n.log2) := Nat.shiftLeft_eq _ _

/-- **A double is compared with an integer** as the number that it is. -/
theorem lt_significand_iff (hm : m < 2 ^ 53) (hnormal : 2 ^ 52 ≤ m ∨ e = -1074) (hn : n ≠ 0)
    (hn' : n < 2 ^ 52) :
    (compare e (n.log2 - 52)).then (compare m (significand n)) = .lt ↔
      m * 2 ^ e.toNat < n * 2 ^ (-e).toNat := by
  have hlog : n.log2 ≤ 51 := log2_le_of_lt hn'
  obtain ⟨hbits, hbits'⟩ := significand_bounds hn (by omega)
  rw [significand_eq] at hbits hbits'
  rcases lt_trichotomy e (n.log2 - 52) with h | h | h
  · -- the place of the last bit is below that of the integer
    obtain ⟨k, hk⟩ := Nat.exists_eq_add_of_le (by omega : 52 - n.log2 + 1 ≤ (-e).toNat)
    have hnone : e.toNat = 0 := by omega
    rw [Int.compare_eq_lt.2 h]
    refine iff_of_true rfl ?_
    calc m * 2 ^ e.toNat = m := by rw [hnone, Nat.pow_zero, Nat.mul_one]
      _ < n * 2 ^ (52 - n.log2) * 2 := by omega
      _ ≤ n * 2 ^ (52 - n.log2) * 2 * 2 ^ k := Nat.le_mul_of_pos_right _ (Nat.two_pow_pos k)
      _ = n * 2 ^ (-e).toNat := by rw [hk, Nat.pow_add, Nat.pow_succ]; ring
  · have hk : (-e).toNat = 52 - n.log2 := by omega
    have hnone : e.toNat = 0 := by omega
    rw [h, Int.compare_eq_eq.2 rfl, ← h, hk, hnone, Nat.pow_zero, Nat.mul_one, ← significand_eq]
    exact Nat.compare_eq_lt
  · -- the place of the last bit is above that of the integer, so the number has all its bits
    obtain ⟨k, hk⟩ := Nat.exists_eq_add_of_le (by omega : (-e).toNat + 1 ≤ 52 - n.log2)
    rw [Int.compare_eq_gt.2 h]
    refine iff_of_false nofun (Nat.not_lt.2 ?_)
    have hhalf : n * 2 ^ (-e).toNat * 2 ≤ n * 2 ^ (52 - n.log2) :=
      calc n * 2 ^ (-e).toNat * 2 ≤ n * 2 ^ (-e).toNat * 2 * 2 ^ k :=
            Nat.le_mul_of_pos_right _ (Nat.two_pow_pos k)
        _ = n * 2 ^ (52 - n.log2) := by rw [hk, Nat.pow_add, Nat.pow_succ]; ring
    calc n * 2 ^ (-e).toNat ≤ 2 ^ 52 := by omega
      _ ≤ m := by omega
      _ ≤ m * 2 ^ e.toNat := Nat.le_mul_of_pos_right _ (Nat.two_pow_pos _)

end Rounding

open Rounding

/-! ## Integers next to doubles -/

/-- **An integer comes back** from its double. -/
theorem toInt_ofInt (d : Direction) {n : ℤ} (hn : n.natAbs < 2 ^ 53) :
    toInt d (Float.ofInt n) = .ok n := by
  by_cases hzero : n = 0
  · subst hzero
    cases d <;> decide +kernel
  · have hlog : n.natAbs.log2 ≤ 52 := log2_le_of_lt hn
    have hfraction : fraction (significand n.natAbs) (n.natAbs.log2 - 52) =
        (n.natAbs * 2 ^ (52 - n.natAbs.log2), 2 ^ (52 - n.natAbs.log2)) := by
      have hnone : ((n.natAbs.log2 : ℤ) - 52).toNat = 0 := by omega
      have hk : (-((n.natAbs.log2 : ℤ) - 52)).toNat = 52 - n.natAbs.log2 := by omega
      rw [fraction_eq, significand_eq, hnone, hk, Nat.pow_zero, Nat.mul_one]
    unfold toInt
    rw [parts_eq, unpack_ofInt hzero hn]
    simp only [Parts.ofUnpacked, hfraction, Direction.apply_mul d _ (Nat.two_pow_pos _)]
    refine congrArg Except.ok ?_
    rcases lt_or_ge n 0 with hneg | hpos
    · rw [if_neg (not_le.2 hneg)]
      exact (Int.eq_neg_natAbs_of_nonpos hneg.le).symm
    · rw [if_pos hpos]
      exact Int.natAbs_of_nonneg hpos

theorem toInt_of_parts {negative : Bool} (h : parts x = .finite negative m e) (d : Direction) :
    toInt d x = .ok (d.apply negative (m * 2 ^ e.toNat) (2 ^ (-e).toNat)) := by
  unfold toInt
  simp only [h, fraction_eq]

/-- **The integer next to a finite double,** in the form in which its arithmetic has it. -/
theorem toInt_cases {d : Direction} {t : ℤ} (h : toInt d x = .ok t) :
    (∃ s, x.toModel.unpack = .zero s ∧ t = 0) ∨ ∃ s m e hm, x.toModel.unpack = .finite s m e hm ∧
      t = d.apply (s == .negative) (m * 2 ^ e.toNat) (2 ^ (-e).toNat) := by
  have hparts := parts_eq x
  cases hx : x.toModel.unpack with
  | zero s =>
    rw [hx] at hparts
    have hzero {den : ℕ} (hden : 0 < den) : d.apply (s == .negative) 0 den = 0 := by
      simpa using Direction.apply_mul (n := 0) d (s == .negative) hden
    rw [toInt_of_parts hparts, Nat.zero_mul, hzero (Nat.two_pow_pos _)] at h
    exact .inl ⟨s, rfl, (Except.ok.inj h).symm⟩
  | finite s m e hm =>
    rw [hx] at hparts
    rw [toInt_of_parts hparts] at h
    exact .inr ⟨s, m, e, hm, rfl, (Except.ok.inj h).symm⟩
  | _ =>
    rw [toInt, hparts, hx] at h
    cases h

/-- The size of the integer counts, and the sign stays. -/
theorem Direction.apply_sign (d : Direction) (num den : ℕ) :
    d.apply true num den ≤ 0 ∧ 0 ≤ d.apply false num den := by
  unfold Direction.apply
  generalize num / den = below
  simp only [if_true, Bool.false_eq_true, if_false]
  cases d <;> dsimp only <;> try split_ifs
  all_goals omega

theorem float_lt_iff {x y : Float} :
    x < y ↔ x.toModel.unpack.compare y.toModel.unpack = some .lt :=
  decide_eq_true_iff.trans beq_iff_eq

/-- A positive number does not become a negative integer. -/
theorem nonneg_of_toInt {d : Direction} {t : ℤ} (h : toInt d x = .ok t) (hpos : 0.0 < x) :
    0 ≤ t := by
  rw [float_lt_iff] at hpos
  obtain ⟨s, hx, rfl⟩ | ⟨s, m, e, hm, hx, rfl⟩ := toInt_cases h
  · exact le_rfl
  · cases s with
    | positive => exact (Direction.apply_sign d _ _).2
    | negative =>
      rw [hx] at hpos
      cases hpos

/-- A number that is not positive does not become a positive integer. -/
theorem nonpos_of_toInt {d : Direction} {t : ℤ} (h : toInt d x = .ok t) (hpos : ¬ 0.0 < x) :
    t ≤ 0 := by
  rw [float_lt_iff] at hpos
  obtain ⟨s, hx, rfl⟩ | ⟨s, m, e, hm, hx, rfl⟩ := toInt_cases h
  · exact le_rfl
  · cases s with
    | positive =>
      rw [hx] at hpos
      exact absurd rfl hpos
    | negative => exact (Direction.apply_sign d _ _).1

/-- **A double is below a positive integer** if what is left of it without its fractional part
is. -/
theorem lt_ofInt_iff {t : ℤ} (h : toInt .towardZero x = .ok t) (hn : n ≠ 0) (hn' : n < 2 ^ 52) :
    x < Float.ofInt n ↔ t < n := by
  rw [float_lt_iff, unpack_ofInt (by omega) (by omega)]
  simp only [Int.natCast_nonneg, if_true, Int.natAbs_natCast]
  obtain ⟨s, hx, rfl⟩ | ⟨s, m, e, hm, hx, rfl⟩ := toInt_cases h
  · rw [hx]
    exact iff_of_true rfl (by omega)
  · obtain ⟨hm', -, hnormal⟩ := normal_unpack hx
    rw [hx]
    cases s with
    | positive =>
      have hbelow := lt_significand_iff hm' hnormal hn hn'
      rw [← Nat.div_lt_iff_lt_mul (Nat.two_pow_pos _)] at hbelow
      exact Option.some_inj.trans (hbelow.trans Int.ofNat_lt.symm)
    | negative =>
      refine iff_of_true rfl ?_
      have hsign := (Direction.apply_sign .towardZero (m * 2 ^ e.toNat) (2 ^ (-e).toNat)).1
      exact lt_of_le_of_lt hsign (by omega)

/-! ## Rounding -/

namespace Rounding

/-- The last bit that is left counts no more than one, if the number is no more than an integer of 52
bits. -/
theorem add_shift_nonpos {k : ℕ} (hn : n < 2 ^ 52) (he : e ≤ 0) (hle : m ≤ n * 2 ^ (-e).toNat)
    (hk : k = 0 ∨ e + k = max (m.log2 + e - 52) (-1074)) : e + k ≤ 0 := by
  have hbits : m < 2 ^ (51 + (-e).toNat + 1) :=
    calc m ≤ n * 2 ^ (-e).toNat := hle
      _ < 2 ^ 52 * 2 ^ (-e).toNat := Nat.mul_lt_mul_of_pos_right hn (Nat.two_pow_pos _)
      _ = 2 ^ (51 + (-e).toNat + 1) := by rw [← Nat.pow_add]; congr 1; omega
  have hlog := log2_le_of_lt hbits
  omega

theorem mul_two_pow_shift {k : ℕ} (h : e + k ≤ 0) :
    n * 2 ^ (-e).toNat = n * 2 ^ (-(e + k)).toNat * 2 ^ k := by
  have hk : (-e).toNat = (-(e + k)).toNat + k := by omega
  rw [hk, Nat.pow_add, Nat.mul_assoc]

/-- **A number below an integer is not rounded past it.** -/
theorem exists_round_le (hn : n < 2 ^ 52) (he : e ≤ 0) (hlt : m < n * 2 ^ (-e).toNat) :
    roundWithAccuracy .binary64 s m e .exact = .zero s ∨
      ∃ m' e' hm, roundWithAccuracy .binary64 s m e .exact = .finite s m' e' hm ∧ m' < 2 ^ 53 ∧
        -1074 ≤ e' ∧ e' ≤ 0 ∧ m' ≤ n * 2 ^ (-e').toNat := by
  unfold roundWithAccuracy
  generalize hfirst : shiftToTargetExponent .binary64 m e .exact = first
  obtain ⟨k, hmantissa, hexponent, -, -, htarget⟩ := hfirst ▸ exists_shift m e .exact
  have hplace := add_shift_nonpos hn he hlt.le htarget
  have hrounded : first.1.roundedMantissa ≤ n * 2 ^ (-first.2).toNat := by
    -- what is left after the shift is below the integer, so it may go up by one
    have hbelow : m / 2 ^ k < n * 2 ^ (-(e + k)).toNat := by
      rwa [Nat.div_lt_iff_lt_mul (Nat.two_pow_pos k), ← mul_two_pow_shift hplace]
    have hstep := roundedMantissa_le first.1
    rw [hexponent]
    omega
  rw [← hexponent] at hplace
  obtain ⟨l, hmantissa', hexponent', hlog, hleast, htarget'⟩ :=
    exists_shift first.1.roundedMantissa first.2 .exact
  have hplace' := add_shift_nonpos hn hplace hrounded htarget'
  dsimp only
  by_cases hne : (shiftToTargetExponent .binary64 first.1.roundedMantissa first.2
      .exact).1.mantissa = 0
  · exact .inl (dif_pos hne)
  · refine .inr ⟨_, _, Nat.pos_of_ne_zero hne, dif_neg hne, ?_, ?_, ?_, ?_⟩
    · rw [hmantissa']
      exact shift_lt hlog
    · rwa [hexponent']
    · rwa [hexponent']
    · rw [hmantissa', hexponent']
      exact Nat.div_le_of_le_mul (by rwa [Nat.mul_comm, ← mul_two_pow_shift hplace'])

end Rounding

/-- **A number below an integer** is next to no larger one, once it is rounded to a double. -/
theorem toInt_round_le (hn : 0 < n) (hn' : n < 2 ^ 52) (he : e ≤ 0)
    (hlt : m < n * 2 ^ (-e).toNat) (hx : x.toModel.unpack =
      (Float.Model.pack (roundWithAccuracy .binary64 .positive m e .exact)).unpack) :
    ∃ t : ℤ, toInt .nearest x = .ok t ∧ 0 ≤ t ∧ t ≤ n := by
  have hnearest {m : ℕ} {e : ℤ} (he : e ≤ 0) (hle : m ≤ n * 2 ^ (-e).toNat) :
      0 ≤ Direction.nearest.apply false (m * 2 ^ e.toNat) (2 ^ (-e).toNat) ∧
        Direction.nearest.apply false (m * 2 ^ e.toNat) (2 ^ (-e).toNat) ≤ n := by
    have hnone : e.toNat = 0 := by omega
    rw [hnone, Nat.pow_zero, Nat.mul_one]
    refine ⟨(Direction.apply_sign _ _ _).2, Int.ofNat_le.2 ?_⟩
    exact roundQuotient_le (Nat.two_pow_pos _) hle
  have hparts := parts_eq x
  rcases exists_round_le (s := .positive) hn' he hlt with
    hround | ⟨m', e', hm, hround, hm', he', hle, hsize⟩
  · rw [hx, hround, unpack_pack_of_special (by simp)] at hparts
    exact ⟨_, toInt_of_parts hparts .nearest, hnearest (by decide) (Nat.zero_le _)⟩
  · rw [hx, hround, unpack_pack_finite hm' he', if_neg (by omega)] at hparts
    refine ⟨_, toInt_of_parts hparts .nearest, ?_⟩
    split
    · exact hnearest hle hsize
    · -- too few bits for any other exponent than the least one
      refine hnearest (by decide) ?_
      calc m' ≤ 2 ^ 52 := by omega
        _ ≤ 2 ^ (-(-1074 : ℤ)).toNat := Nat.pow_le_pow_right (by decide) (by decide)
        _ ≤ n * 2 ^ (-(-1074 : ℤ)).toNat := Nat.le_mul_of_pos_left _ hn

end ValuedGraph
