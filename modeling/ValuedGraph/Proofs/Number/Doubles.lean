import ValuedGraph.Proofs.Number.Rounding

/-!
# Doubles and their bits

A double is 64 bits, and its arithmetic works on what these stand for. Both views agree, so what is
known about rounded numbers holds of doubles, and of the integers that they become.

* `parts_eq`: **to take a double apart** gives the parts that its arithmetic sees.
* `Rounding.unpack_pack_finite`: a rounded number, once it is a double.
* `isNaN_ofInt`: **no integer is NaN.**
* `ofInt_ok`, `exists_toInt`, `toInt_eq_error`: from integers to doubles of their size, and back
  from finite ones.
-/

namespace ValuedGraph

open Float.Model Float.Model.UnpackedFloat

namespace Rounding

variable {u : UnpackedFloat} {b e : ℤ} {m : ℕ} {s : Sign}

/-! ## Bits -/

theorem toNat_append_one (m : BitVec 52) : (1#1 ++ m).toNat = 2 ^ 52 + m.toNat := by
  rw [BitVec.toNat_append, ← Nat.shiftLeft_add_eq_or_of_lt m.isLt]
  rfl

/-- **What three fields of bits stand for.** -/
theorem unpack_packComponents (s : Sign) (e : BitVec 11) (m : BitVec 52) :
    UnpackedFloat.unpack .binary64 (packComponents .binary64 s e m) =
      if e = -1#11 then
        if m = 0#52 then .infinity s else .notANumber
      else if e = 0#11 then
        if h : m = 0#52 then .zero s
        else .finite s m.toNat (-1074) (by simpa [BitVec.toNat_pos, BitVec.pos_iff_ne_zero])
      else .finite s (2 ^ 52 + m.toNat) (e.toNat - 1075) (by omega) := by
  unfold UnpackedFloat.unpack
  simp only [unpackMantissa_packComponents, unpackExponent_packComponents,
    unpackSign_packComponents, Sign.ofBitVec_toBitVec, toNat_append_one]
  split
  · rfl
  · split
    · rename_i he
      simp only [he]
      rfl
    · rfl

/-- The fields of a rounded number. -/
theorem pack_finite {hm : 0 < m} (hlt : m < 2 ^ 53) (he : -1074 ≤ e) :
    UnpackedFloat.pack .binary64 (.finite s m e hm) =
      if 971 < e then packComponents .binary64 s (-1#11) 0#52
      else if 2 ^ 52 ≤ m then
        packComponents .binary64 s (.ofNat 11 (e + 1075).toNat) (.ofNat 52 m)
      else packComponents .binary64 s 0#11 (.ofNat 52 m) := by
  have hlog : m.log2 + 1 = 53 ↔ 2 ^ 52 ≤ m := by
    rw [Nat.succ_inj, Nat.log2_eq_iff hm.ne']
    omega
  have hmax : 2 ^ 11 ≤ (e + 1023 + 52).toNat + 1 ↔ 971 < e := by omega
  change (if 2 ^ 11 ≤ (e + 1023 + 52).toNat + 1 then packedInfinity .binary64 s
    else if m.log2 + 1 = 53 then _ else _) = _
  rw [if_congr hmax rfl (if_congr hlog rfl rfl), Int.add_assoc]
  rfl

/-- **What a rounded number stands for once it is packed:** itself, or an infinity. -/
theorem unpack_pack_finite {hm : 0 < m} (hlt : m < 2 ^ 53) (he : -1074 ≤ e) :
    (Float.Model.pack (.finite s m e hm)).unpack =
      if 971 < e then .infinity s else .finite s m (if 2 ^ 52 ≤ m then e else -1074) hm := by
  change UnpackedFloat.unpack .binary64 (UnpackedFloat.pack .binary64 (.finite s m e hm)) = _
  rw [pack_finite hlt he]
  split
  · rw [unpack_packComponents]
    rfl
  · rename_i hmax
    split
    · rename_i hnormal
      have hexponent : (BitVec.ofNat 11 (e + 1075).toNat).toNat = (e + 1075).toNat := by
        rw [BitVec.toNat_ofNat, Nat.mod_eq_of_lt (by omega)]
      have hmantissa : (BitVec.ofNat 52 m).toNat = m - 2 ^ 52 := by
        rw [BitVec.toNat_ofNat]
        omega
      rw [unpack_packComponents, if_neg, if_neg]
      · simp only [hexponent, hmantissa, UnpackedFloat.finite.injEq, true_and]
        omega
      · intro h
        have := congrArg BitVec.toNat h
        rw [hexponent] at this
        change _ = 0 at this
        omega
      · intro h
        have := congrArg BitVec.toNat h
        rw [hexponent] at this
        change _ = 2047 at this
        omega
    · have hmantissa : (BitVec.ofNat 52 m).toNat = m := by
        rw [BitVec.toNat_ofNat]
        omega
      have hzero : BitVec.ofNat 52 m ≠ 0#52 := by
        intro h
        exact hm.ne' (by simpa only [hmantissa, BitVec.toNat_zero] using congrArg BitVec.toNat h)
      rw [unpack_packComponents, if_neg (by decide), if_pos rfl, dif_neg hzero]
      simp only [hmantissa]

theorem unpack_pack_of_special (hu : ∀ s m e h, u ≠ .finite s m e h) :
    (Float.Model.pack u).unpack = u := by
  cases u with
  | finite s m e h => exact absurd rfl (hu s m e h)
  | notANumber => rfl
  | infinity s => cases s <;> rfl
  | zero s => cases s <;> rfl

/-- To pack a rounded number makes no NaN of it. -/
theorem isNaN_pack (hu : Rounded u) : (Float.Model.pack u).unpack.isNaN = u.isNaN := by
  cases u with
  | finite s m e hm =>
    rw [unpack_pack_finite hu.1 hu.2]
    split <;> rfl
  | _ => rw [unpack_pack_of_special (by simp)]

/-- A number that is small enough keeps its size. -/
theorem bounded_pack (hu : Bounded b u) (hb : -1074 ≤ b) (hb' : b ≤ 971) :
    Bounded b (Float.Model.pack u).unpack := by
  cases u with
  | finite s m e hm =>
    obtain ⟨hlt, he, he'⟩ := hu
    rw [unpack_pack_finite hlt he, if_neg (by omega)]
    refine ⟨hlt, ?_, ?_⟩ <;> split <;> omega
  | zero s => rwa [unpack_pack_of_special (by simp)]
  | _ => exact hu.elim

/-- The bits of every double stand for a rounded number. -/
theorem rounded_unpack (x : Float.Model) : Rounded x.unpack := by
  have hmantissa : (@unpackMantissa .binary64 x.toBits.toBitVec).toNat < 2 ^ 52 :=
    BitVec.isLt _
  unfold Float.Model.unpack UnpackedFloat.unpack
  dsimp only
  split
  · split <;> trivial
  · split
    · split
      · trivial
      · refine ⟨by omega, ?_⟩
        change -1074 ≤ ((@unpackExponent .binary64 x.toBits.toBitVec).toNat : ℤ) - 1075 + 1
        omega
    · rename_i hexponent
      constructor
      · rw [toNat_append_one]
        omega
      · have hpos : (@unpackExponent .binary64 x.toBits.toBitVec).toNat ≠ 0 := by
          exact fun h => hexponent (BitVec.eq_of_toNat_eq h)
        change -1074 ≤ ((@unpackExponent .binary64 x.toBits.toBitVec).toNat : ℤ) - 1075
        omega

/-! ## Natural numbers -/

/-- To round a number moves its leading bit by one place at most. -/
theorem bounded_round (h : m.log2 + e ≤ b) (hb : -1074 ≤ b) :
    Bounded (b + 1) (UnpackedFloat.round .binary64 s m e) := by
  have hlog := log2_shiftLeft_le m (e - Format.binary64.targetExponent (totalExponent m e)).toNat
  unfold UnpackedFloat.round decreaseExponent
  exact bounded_roundWithAccuracy (by omega) hb

theorem bounded_normalize {i : ℤ} (h : i.natAbs.log2 + e ≤ b) (hb : -1074 ≤ b) :
    Bounded (b + 1) (UnpackedFloat.normalize .binary64 i e s) := by
  unfold UnpackedFloat.normalize
  split
  · rename_i hi
    rw [Int.compare_eq_lt] at hi
    obtain ⟨n, rfl⟩ : ∃ n : ℕ, i = -n := ⟨i.natAbs, by omega⟩
    rw [Int.natAbs_neg] at h
    rw [Int.neg_neg]
    exact bounded_round h hb
  · trivial
  · rename_i hi
    rw [Int.compare_eq_gt] at hi
    obtain ⟨n, rfl⟩ : ∃ n : ℕ, i = n := ⟨i.toNat, by omega⟩
    exact bounded_round h hb

end Rounding

open Rounding

/-- A natural number of at most 53 bits passes through a word, and is multiplied by one. -/
theorem ofNat_eq_mul {n : ℕ} (hn : n < 2 ^ 53) :
    Float.ofNat n = n.toUInt64.toFloat * Float.ofBits 0x3FF0000000000000 := by
  change Float.ofScientific n false 0 = _
  unfold Float.ofScientific
  rw [dif_pos ⟨hn, by decide⟩]
  rfl

theorem toNat_toUInt64 {n : ℕ} (hn : n < 2 ^ 53) : n.toUInt64.toNat = n := by
  rw [Nat.toUInt64, UInt64.toNat_ofNat']
  exact Nat.mod_eq_of_lt (by omega)

theorem bounded_ofNat_of_lt {n : ℕ} (hn : n < 2 ^ 53) :
    Bounded (n.log2 + 3) (Float.ofNat n).toModel.unpack := by
  have hlog : n.log2 ≤ 52 := log2_le_of_lt hn
  have hmodel : Bounded (n.log2 + 1) n.toUInt64.toFloat.toModel.unpack := by
    refine bounded_pack ?_ (by omega) (by omega)
    unfold UnpackedFloat.ofUInt64 UnpackedFloat.ofNat UnpackedFloat.ofInt
    rw [toNat_toUInt64 hn]
    exact bounded_normalize (by rw [Int.natAbs_natCast]; omega) (by omega)
  have hone : Bounded 0 (Float.ofBits 0x3FF0000000000000).toModel.unpack := by decide +kernel
  have hproduct := bounded_mul hmodel hone (by omega)
  rw [ofNat_eq_mul hn]
  exact bounded_pack (hproduct.mono (by omega)) (by omega) (by omega)

/-- A large natural number is rounded as it is. -/
theorem exists_ofNat_eq {n : ℕ} (hn : ¬ n < 2 ^ 53) : ∃ (m : ℕ) (e : ℤ), m.log2 + e = n.log2 ∧
    53 ≤ m.log2 ∧ (Float.ofNat n).toModel.unpack =
      (Float.Model.pack (roundWithAccuracy .binary64 .positive m e .exact)).unpack := by
  have hslow : Float.ofNat n = .ofModel (.ofScientific n 0) := by
    change Float.ofScientific n false 0 = _
    unfold Float.ofScientific
    rw [dif_neg (by omega)]
    rfl
  have hsmall : ¬ (0 : ℤ) < -(2 ^ 11 + n.log2) := by omega
  have hmul : UnpackedFloat.ofScientific .binary64 n 0 =
      roundWithAccuracy .binary64 .positive (n <<< 53 * 10 ^ 0) (-53 + 0) .exact := by
    unfold UnpackedFloat.ofScientific
    rw [dif_neg (by omega), if_neg (by decide), if_neg hsmall, if_pos (by decide)]
    rfl
  have hlog := log2_shiftLeft (by omega : n ≠ 0) 53
  refine ⟨n <<< 53 * 10 ^ 0, -53 + 0, ?_, ?_, ?_⟩
  · rw [Nat.pow_zero, Nat.mul_one]
    omega
  · rw [Nat.pow_zero, Nat.mul_one]
    omega
  · rw [hslow, ← hmul]
    rfl

/-- **A natural number that is not too large** is a double of about its size. -/
theorem bounded_ofNat {n : ℕ} (hn : n.log2 ≤ 960) :
    Bounded (n.log2 + 3) (Float.ofNat n).toModel.unpack := by
  by_cases hlt : n < 2 ^ 53
  · exact bounded_ofNat_of_lt hlt
  · obtain ⟨m, e, hsize, -, heq⟩ := exists_ofNat_eq hlt
    have hround := bounded_roundWithAccuracy (s := .positive) (a := .exact) hsize.le (by omega)
    rw [heq]
    exact bounded_pack (hround.mono (by omega)) (by omega) (by omega)

/-- **No natural number is NaN** as a double. -/
theorem isNaN_ofNat (n : ℕ) : (Float.ofNat n).isNaN = false := by
  by_cases hn : n < 2 ^ 53
  · exact (bounded_ofNat_of_lt hn).isNaN
  · obtain ⟨m, e, -, -, heq⟩ := exists_ofNat_eq hn
    change (Float.ofNat n).toModel.unpack.isNaN = false
    rw [heq, isNaN_pack rounded_roundWithAccuracy, isNaN_roundWithAccuracy]

theorem rounded_neg (hu : Rounded u) : Rounded u.neg := by
  cases u <;> exact hu

theorem bounded_neg (hu : Bounded b u) : Bounded b u.neg := by
  cases u <;> exact hu

theorem isNaN_neg (x : Float) : (-x).isNaN = x.isNaN := by
  have hneg : x.toModel.unpack.neg.isNaN = x.toModel.unpack.isNaN := by
    cases x.toModel.unpack <;> rfl
  exact (isNaN_pack (rounded_neg (rounded_unpack x.toModel))).trans hneg

/-- **No integer is NaN** as a double. -/
theorem isNaN_ofInt (n : ℤ) : (Float.ofInt n).isNaN = false := by
  cases n with
  | ofNat n => exact isNaN_ofNat n
  | negSucc n => exact (isNaN_neg _).trans (isNaN_ofNat (n + 1))

/-! ## Doubles taken apart -/

/-- The parts of a number in the form in which arithmetic has it. -/
def Parts.ofUnpacked : UnpackedFloat → Parts
  | .notANumber => .nan
  | .infinity s => .infinite (s == .negative)
  | .zero s => .finite (s == .negative) 0 (-1074)
  | .finite s m e _ => .finite (s == .negative) m e

theorem toNat_unpackMantissa (b : BitVec Format.binary64.numBits) :
    (unpackMantissa b).toNat = b.toNat % hiddenBit := by
  simp only [unpackMantissa, BitVec.toNat_cast, BitVec.extractLsb_toNat]
  rfl

theorem toNat_unpackExponent (b : BitVec Format.binary64.numBits) :
    (unpackExponent b).toNat = b.toNat / hiddenBit % 2048 := by
  simp only [unpackExponent, BitVec.toNat_cast, BitVec.extractLsb_toNat, Nat.shiftRight_eq_div_pow]
  rfl

theorem toNat_unpackSign (b : BitVec Format.binary64.numBits) :
    (unpackSign b).toNat = b.toNat / signWeight % 2 := by
  unfold unpackSign
  simp only [BitVec.toNat_cast, BitVec.extractLsb_toNat, Nat.shiftRight_eq_div_pow]
  rfl

theorem ofBitVec_beq (b : BitVec 1) : (Sign.ofBitVec b == .negative) = (b.toNat == 1) := by
  revert b
  decide

/-- **To take a double apart** gives the parts that its arithmetic sees. -/
theorem parts_eq (x : Float) : parts x = .ofUnpacked x.toModel.unpack := by
  obtain ⟨⟨word, hvalid⟩⟩ := x
  change Parts.ofBits word.toBitVec.toNat =
    .ofUnpacked (UnpackedFloat.unpack .binary64 word.toBitVec)
  generalize word.toBitVec = b
  have hlargest : @unpackExponent .binary64 b = -1#11 ↔ b.toNat / hiddenBit % 2048 = 2047 := by
    rw [← BitVec.toNat_inj, toNat_unpackExponent]
    rfl
  have hleast : @unpackExponent .binary64 b = 0#11 ↔ b.toNat / hiddenBit % 2048 = 0 := by
    rw [← BitVec.toNat_inj, toNat_unpackExponent]
    rfl
  have hmantissa : @unpackMantissa .binary64 b = 0#52 ↔ b.toNat % hiddenBit = 0 := by
    rw [← BitVec.toNat_inj, toNat_unpackMantissa]
    rfl
  have hsign : (Sign.ofBitVec (@unpackSign .binary64 b) == .negative) =
      (b.toNat / signWeight % 2 == 1) := by
    rw [ofBitVec_beq, toNat_unpackSign]
  unfold Parts.ofBits UnpackedFloat.unpack
  dsimp only
  split
  · rename_i hfield
    rw [if_pos (hlargest.2 hfield)]
    split
    · rename_i hfraction
      rw [if_pos (hmantissa.2 hfraction), Parts.ofUnpacked, hsign]
    · rename_i hfraction
      rw [if_neg (mt hmantissa.1 hfraction), Parts.ofUnpacked]
  · rename_i hfield
    rw [if_neg (mt hlargest.1 hfield)]
    split
    · rename_i hzero
      rw [if_pos (hleast.2 hzero)]
      split
      · rename_i hfraction
        rw [Parts.ofUnpacked, hsign, hmantissa.1 hfraction]
      · rw [Parts.ofUnpacked, hsign, toNat_unpackMantissa]
        simp only [toNat_unpackExponent, hzero]
        rfl
    · rename_i hnormal
      rw [if_neg (mt hleast.1 hnormal), Parts.ofUnpacked, hsign, toNat_append_one,
        toNat_unpackMantissa, toNat_unpackExponent]
      rfl

/-! ## Small numbers -/

theorem natAbs_apply_le (d : Direction) (negative : Bool) (num den : ℕ) :
    (d.apply negative num den).natAbs ≤ num / den + 1 := by
  have hround : roundQuotient num den ≤ num / den + 1 := by
    simp only [roundQuotient]
    split_ifs <;> omega
  have hsize (size : ℤ) : (if negative then -size else size).natAbs = size.natAbs := by
    split <;> simp
  unfold Direction.apply
  dsimp only
  rw [hsize]
  cases d <;> simp only [apply_ite Int.natAbs, Int.natAbs_natCast] <;> try split_ifs
  all_goals omega

/-- The fraction of a number of a known size. -/
theorem fraction_lt {m b : ℕ} {e : ℤ} (h : m.log2 + e ≤ b) :
    (fraction m e).1 / (fraction m e).2 < 2 ^ (b + 1) := by
  have hm : m < 2 ^ (m.log2 + 1) := Nat.lt_log2_self
  unfold fraction
  split
  · change m * 2 ^ e.toNat / 1 < _
    rw [Nat.div_one]
    calc m * 2 ^ e.toNat < 2 ^ (m.log2 + 1) * 2 ^ e.toNat :=
          Nat.mul_lt_mul_of_pos_right hm (Nat.two_pow_pos _)
      _ = 2 ^ (m.log2 + 1 + e.toNat) := (Nat.pow_add 2 _ _).symm
      _ ≤ 2 ^ (b + 1) := Nat.pow_le_pow_right (by decide) (by omega)
  · change m / 2 ^ (-e).toNat < _
    rw [Nat.div_lt_iff_lt_mul (Nat.two_pow_pos _), ← Nat.pow_add]
    exact hm.trans_le (Nat.pow_le_pow_right (by decide) (by omega))

/-- **A finite number has an integer next to it,** in any direction, and of about the same size. -/
theorem exists_toInt (d : Direction) {x : Float} {b : ℕ} (h : Bounded b x.toModel.unpack) :
    ∃ n, toInt d x = .ok n ∧ n.natAbs ≤ 2 ^ (b + 1) := by
  obtain ⟨negative, m, e, hparts, hsize⟩ : ∃ negative m e,
      parts x = .finite negative m e ∧ m.log2 + e ≤ b := by
    rw [parts_eq]
    cases hu : x.toModel.unpack with
    | zero s => exact ⟨_, _, _, rfl, by rw [Nat.log2_zero]; omega⟩
    | finite s m e hm =>
      rw [hu] at h
      exact ⟨_, _, _, rfl, h.2.2⟩
    | _ =>
      rw [hu] at h
      exact h.elim
  refine ⟨_, by rw [toInt, hparts], ?_⟩
  exact (natAbs_apply_le d negative _ _).trans (fraction_lt hsize)

theorem isFinite_iff {x : Float} : x.isFinite = true ↔ x.isNaN = false ∧ x.isInf = false := by
  change x.toModel.unpack.isFinite = true ↔
    x.toModel.unpack.isNaN = false ∧ x.toModel.unpack.isInf = false
  cases x.toModel.unpack <;> simp [UnpackedFloat.isFinite, UnpackedFloat.isNaN, UnpackedFloat.isInf]

/-- **Why a number has no integer next to it.** -/
inductive NoInteger (x : Float) : NumericFault → Prop
  | nan (h : x.isNaN = true) : NoInteger x .nanToInteger
  | infinite (h : x.isInf = true) : NoInteger x .infinityToInteger

theorem exists_noInteger {x : Float} : (∃ fault, NoInteger x fault) ↔ x.isFinite = false := by
  rw [← Bool.not_eq_true, isFinite_iff]
  constructor
  · rintro ⟨_, hnan | hinf⟩ ⟨hnan', hinf'⟩
    · rw [hnan] at hnan'
      cases hnan'
    · rw [hinf] at hinf'
      cases hinf'
  · intro h
    cases hnan : x.isNaN with
    | true => exact ⟨_, .nan hnan⟩
    | false =>
      cases hinf : x.isInf with
      | true => exact ⟨_, .infinite hinf⟩
      | false => exact absurd ⟨hnan, hinf⟩ h

/-- **Only finite numbers become integers.** -/
theorem toInt_eq_error {d : Direction} {x : Float} {fault : NumericFault} :
    toInt d x = .error fault ↔ NoInteger x fault := by
  have hnan : x.isNaN = x.toModel.unpack.isNaN := rfl
  have hinf : x.isInf = x.toModel.unpack.isInf := rfl
  unfold toInt
  rw [parts_eq]
  cases hx : x.toModel.unpack <;> rw [hx] at hnan hinf
  case notANumber =>
    constructor
    · rintro ⟨⟩
      exact .nan hnan
    · rintro (- | h)
      · rfl
      · cases hinf.symm.trans h
  case infinity =>
    constructor
    · rintro ⟨⟩
      exact .infinite hinf
    · rintro (h | -)
      · cases hnan.symm.trans h
      · rfl
  all_goals
    refine ⟨nofun, ?_⟩
    rintro (h | h)
    · cases hnan.symm.trans h
    · cases hinf.symm.trans h

theorem bounded_ofInt {n : ℤ} (hn : n.natAbs < 2 ^ 53) :
    Bounded (n.natAbs.log2 + 3) (Float.ofInt n).toModel.unpack := by
  have hlog : n.natAbs.log2 ≤ 52 := log2_le_of_lt hn
  cases n with
  | ofNat n => exact bounded_ofNat_of_lt hn
  | negSucc n => exact bounded_pack (bounded_neg (bounded_ofNat_of_lt hn)) (by omega) (by omega)

/-- **An integer of at most 53 bits is a double.** -/
theorem ofInt_ok {n : ℤ} (hn : n.natAbs < 2 ^ 53) : ofInt n = .ok (Float.ofInt n) := by
  have hfinite : (Float.ofInt n).isInf = false := (bounded_ofInt hn).isInf
  rw [ofInt, hfinite]
  rfl

/-- A positive number below one is small. -/
theorem bounded_of_lt_one {x : Float} (hpos : 0.0 < x) (hlt : x < 1.0) :
    Bounded 0 x.toModel.unpack := by
  have hzero : (0.0 : Float).toModel.unpack = .zero .positive := by rfl
  have hone : (1.0 : Float).toModel.unpack = .finite .positive (2 ^ 52) (-52) (by decide) := by rfl
  have hpos : UnpackedFloat.lt (0.0 : Float).toModel.unpack x.toModel.unpack :=
    of_decide_eq_true hpos
  have hlt : UnpackedFloat.lt x.toModel.unpack (1.0 : Float).toModel.unpack :=
    of_decide_eq_true hlt
  rw [hzero] at hpos
  rw [hone] at hlt
  have hrounded := rounded_unpack x.toModel
  cases hu : x.toModel.unpack with
  | finite s m e hm =>
    rw [hu] at hpos hlt hrounded
    refine ⟨hrounded.1, hrounded.2, ?_⟩
    cases s with
    | negative => cases hpos
    | positive =>
      change (some ((compare e (-52)).then (compare m (2 ^ 52))) == some .lt) = true at hlt
      have he : e ≤ -52 := by
        by_contra he
        rw [Int.compare_eq_gt.2 (by omega)] at hlt
        cases hlt
      have hlog : m.log2 ≤ 52 := log2_le_of_lt hrounded.1
      omega
  | zero s => trivial
  | infinity s =>
    rw [hu] at hpos hlt
    cases s with
    | negative => cases hpos
    | positive => cases hlt
  | notANumber =>
    rw [hu] at hlt
    cases hlt

end ValuedGraph
