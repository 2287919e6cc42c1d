import ValuedGraph.Proofs.HexColor
import ValuedGraph.Proofs.Mixing
import ValuedGraph.Proofs.Number.Truncation

/-!
# Packing and unpacking

A packed number is a word of four bytes, and a color is unpacked from its word. What is unpacked
packs into the same word, and four bytes come back from theirs. Other numbers are unpacked as the
words next to them, and other colors are packed as the bytes next to them, so from the first trip on
nothing changes any more.

* `Color.word`, `Color.ofBytes`: four bytes as a number and as a color.
* `Color.packedNat_eq`: **the word that a number stands for.**
* `Color.NearBytes`, `Color.NearBytes.pack`: the bytes next to a color, and what it packs into.
* `Color.exists_nearBytes`: **channels that are brought into their ranges** are next to bytes.
* `Color.pack_unpack_inverse`: **packing and unpacking** undo each other.
-/

namespace ValuedGraph

open Float.Model Float.Model.UnpackedFloat
open Rounding

namespace Color

variable {x : Float} {n : ℕ} {color : Color} {r g b a : Fin 256}

/-! ## Words -/

/-- **Four bytes as one number.** -/
def word (r g b a : Fin 256) : ℕ := ((r * 256 + g) * 256 + b) * 256 + a

/-- **The color of four bytes.** The last one is alpha, as a part of 255. -/
def ofBytes (r g b a : Fin 256) : Color :=
  { red := r.val, green := g.val, blue := b.val, alpha := Float.ofInt a.val / 255.0 }

theorem word_lt (r g b a : Fin 256) : word r g b a < 2 ^ 32 := by
  unfold word
  omega

/-- Every word is one of four bytes. -/
theorem exists_word (hn : n < 2 ^ 32) : ∃ r g b a, word r g b a = n := by
  refine ⟨⟨n / 0x1000000, by omega⟩, ⟨n / 0x10000 % 256, by omega⟩, ⟨n / 0x100 % 256, by omega⟩,
    ⟨n % 256, by omega⟩, ?_⟩
  simp only [word]
  omega

/-- **The bytes of a word** are unpacked. -/
theorem unpack_of_packedNat (h : packedNat x = word r g b a) : unpack x = ofBytes r g b a := by
  have hred : (word r g b a : ℤ) / 0x1000000 % 256 = r.val := by unfold word; omega
  have hgreen : (word r g b a : ℤ) / 0x10000 % 256 = g.val := by unfold word; omega
  have hblue : (word r g b a : ℤ) / 0x100 % 256 = b.val := by unfold word; omega
  have halpha : word r g b a % 256 = a := by unfold word; omega
  unfold unpack
  simp only [h, hred, hgreen, hblue, halpha]
  rfl

/-! ## Numbers as words -/

/-- **The word next to a number:** without its fractional part, brought into 32 bits. NaN counts as
zero. -/
def clampedWord (x : Float) : ℤ :=
  match toInt .towardZero x with
  | .ok t => max 0 (min 4294967295 t)
  | .error _ => if 0.0 < x then 4294967295 else 0

theorem clampedWord_bounds (x : Float) : 0 ≤ clampedWord x ∧ clampedWord x < 2 ^ 32 := by
  unfold clampedWord
  split
  · omega
  · split_ifs <;> omega

theorem not_isNaN_of_toInt {d : Direction} {t : ℤ} (h : toInt d x = .ok t) : x.isNaN = false := by
  cases hnan : x.isNaN with
  | false => rfl
  | true =>
    rw [toInt_eq_error.2 (.nan hnan)] at h
    cases h

/-- A number between the ends of the range stays, and any other one becomes the end on its side. -/
theorem greater_smaller_eq (x : Float) : greater 0.0 (smaller 4294967295.0 x) =
    if x < 4294967295.0 then if 0.0 < x then x else 0.0 else 4294967295.0 := by
  have hpos : (0.0 : Float) < 4294967295.0 := by decide +kernel
  unfold greater smaller
  by_cases hlt : x < 4294967295.0
  · rw [if_pos hlt, if_pos hlt]
  · rw [if_neg hlt, if_neg hlt, if_pos hpos]

/-- A finite number is truncated. -/
theorem packedNat_of_ok {t : ℤ} (h : toInt .towardZero x = .ok t) :
    (packedNat x : ℤ) = max 0 (min 4294967295 t) := by
  have htop : (4294967295.0 : Float) = Float.ofInt (4294967295 : ℕ) := by rfl
  have hlast : toInt .towardZero 4294967295.0 = .ok 4294967295 := by decide +kernel
  have hfirst : toInt .towardZero 0.0 = .ok 0 := by decide +kernel
  have hbelow : x < 4294967295.0 ↔ t < 4294967295 :=
    htop ▸ lt_ofInt_iff h (by decide) (by decide)
  rw [packedNat, greater_smaller_eq, not_isNaN_of_toInt h, if_neg nofun]
  by_cases hlt : x < 4294967295.0
  · have ht := hbelow.1 hlt
    rw [if_pos hlt]
    by_cases hpos : 0.0 < x
    · have ht' := nonneg_of_toInt h hpos
      rw [if_pos hpos, h]
      dsimp only
      omega
    · have ht' := nonpos_of_toInt h hpos
      rw [if_neg hpos, hfirst]
      dsimp only
      omega
  · have ht := mt hbelow.2 hlt
    rw [if_neg hlt, hlast]
    dsimp only
    omega

/-- An infinity is an end of the range, and NaN the lower one. -/
theorem packedNat_of_error {fault : NumericFault} (h : toInt .towardZero x = .error fault) :
    packedNat x = if 0.0 < x then 4294967295 else 0 := by
  have htop : (4294967295.0 : Float) = Float.ofInt (4294967295 : ℕ) := by rfl
  have hend := unpack_ofInt (n := (4294967295 : ℕ)) (by decide) (by decide)
  have hzero : (0.0 : Float).toModel.unpack = .zero .positive := by rfl
  have hlast : toInt .towardZero 4294967295.0 = .ok 4294967295 := by decide +kernel
  have hfirst : toInt .towardZero 0.0 = .ok 0 := by decide +kernel
  have hfinite : x.toModel.unpack.isFinite = false := exists_noInteger.1 ⟨fault, toInt_eq_error.1 h⟩
  have hnan : x.isNaN = x.toModel.unpack.isNaN := rfl
  rw [packedNat, greater_smaller_eq, hnan]
  cases hx : x.toModel.unpack with
  | notANumber =>
    have hpos : ¬ 0.0 < x := by
      rw [float_lt_iff, hx, hzero]
      nofun
    exact (if_neg hpos).symm
  | infinity s =>
    cases s with
    | positive =>
      have hlt : ¬ x < 4294967295.0 := by
        rw [htop, float_lt_iff, hx, hend]
        nofun
      have hpos : 0.0 < x := by
        rw [float_lt_iff, hx, hzero]
        rfl
      rw [if_neg hlt, hlast]
      exact (if_pos hpos).symm
    | negative =>
      have hlt : x < 4294967295.0 := by
        rw [htop, float_lt_iff, hx, hend]
        rfl
      have hpos : ¬ 0.0 < x := by
        rw [float_lt_iff, hx, hzero]
        nofun
      rw [if_pos hlt, if_neg hpos, hfirst]
      exact (if_neg hpos).symm
  | _ =>
    rw [hx] at hfinite
    cases hfinite

/-- **A number is unpacked as the word next to it.** -/
theorem packedNat_eq (x : Float) : (packedNat x : ℤ) = clampedWord x := by
  unfold clampedWord
  cases h : toInt .towardZero x with
  | ok t => exact packedNat_of_ok h
  | error fault =>
    rw [packedNat_of_error h]
    split <;> rfl

/-- A word is unpacked as it is. -/
theorem packedNat_ofInt (hn : n < 2 ^ 32) : packedNat (Float.ofInt n) = n := by
  have hword := packedNat_of_ok (toInt_ofInt .towardZero (n := n) (by omega))
  omega

theorem unpack_word (r g b a : Fin 256) :
    unpack (Float.ofInt (word r g b a)) = ofBytes r g b a :=
  unpack_of_packedNat (packedNat_ofInt (word_lt r g b a))

/-! ## Colors as words -/

/-- **The bytes next to a color:** its channels, and the nearest byte to its alpha. -/
structure NearBytes (c : Color) (r g b a : Fin 256) : Prop where
  red : c.red = r.val
  green : c.green = g.val
  blue : c.blue = b.val
  alpha : toInt .nearest (c.alpha * 255.0) = .ok (a.val : ℤ)

theorem nearBytes_ofBytes (r g b a : Fin 256) : (ofBytes r g b a).NearBytes r g b a :=
  ⟨rfl, rfl, rfl, (alpha_of_byte (by omega)).1⟩

/-- Bytes that are shifted to their places do not overlap. -/
theorem NearBytes.packedInt (h : color.NearBytes r g b a) :
    color.packedInt a.val = word r g b a := by
  have hor (k : ℕ) {m n : ℕ} (hn : n < 2 ^ k) : 2 ^ k * m ||| n = 2 ^ k * m + n :=
    (Nat.two_pow_add_eq_or_of_lt hn m).symm
  have hred : r.val * 0x1000000 ||| g.val * 0x10000 = 2 ^ 16 * (r.val * 256 + g.val) := by
    rw [show r.val * 0x1000000 = 2 ^ 24 * r.val by omega, hor 24 (by omega)]
    omega
  have hgreen : 2 ^ 16 * (r.val * 256 + g.val) ||| b.val * 0x100 =
      2 ^ 8 * ((r.val * 256 + g.val) * 256 + b.val) := by
    rw [hor 16 (by omega)]
    omega
  have hword : r.val * 0x1000000 ||| g.val * 0x10000 ||| b.val * 0x100 ||| a.val = word r g b a := by
    rw [hred, hgreen, hor 8 (by omega), word]
    omega
  rw [Color.packedInt, h.red, h.green, h.blue]
  exact congrArg Int.ofNat hword

/-- **A color packs into the bytes next to it.** -/
theorem NearBytes.pack (h : color.NearBytes r g b a) :
    color.pack = .ok (Float.ofInt (word r g b a)) := by
  have hlt := word_lt r g b a
  refine (bind_of_ok h.alpha _).trans ?_
  rw [h.packedInt]
  exact ofInt_ok (by omega)

/-- A number between zero and one, in the form in which its arithmetic has it. -/
theorem exists_significand_of_unit (hpos : 0.0 < x) (hlt : x < 1.0) :
    ∃ m e hm, x.toModel.unpack = .finite .positive m e hm ∧ e ≤ 0 ∧ m < 2 ^ (-e).toNat := by
  have hzero : (0.0 : Float).toModel.unpack = .zero .positive := by rfl
  have hone : (1.0 : Float).toModel.unpack =
      .finite .positive (significand 1) ((1 : ℕ).log2 - 52) (by decide) := by rfl
  have hsmall := bounded_of_lt_one hpos hlt
  rw [float_lt_iff, hzero] at hpos
  rw [float_lt_iff, hone] at hlt
  cases hx : x.toModel.unpack with
  | finite s m e hm =>
    rw [hx] at hpos hlt hsmall
    cases s with
    | negative => cases hpos
    | positive =>
      have hbelow := (lt_significand_iff hsmall.1 (normal_unpack hx).2.2 (by decide) (by decide)).1
        (Option.some.inj hlt)
      rw [Nat.one_mul] at hbelow
      have he : e ≤ 0 := by
        by_contra he
        have hnone : (-e).toNat = 0 := by omega
        have hle := Nat.le_mul_of_pos_right m (Nat.two_pow_pos e.toNat)
        rw [hnone] at hbelow
        omega
      have hnone : e.toNat = 0 := by omega
      rw [hnone, Nat.pow_zero, Nat.mul_one] at hbelow
      exact ⟨m, e, hm, rfl, he, hbelow⟩
  | zero s =>
    rw [hx] at hpos
    cases hpos
  | _ =>
    rw [hx] at hsmall
    exact hsmall.elim

/-- **A part of one is next to a byte,** once it is multiplied by 255. -/
theorem exists_byte_of_unit (y : Float) :
    ∃ a : Fin 256, toInt .nearest (clampUnit y * 255.0) = .ok (a.val : ℤ) := by
  rcases clampUnit_cases y with h | h | ⟨hpos, hlt⟩
  · exact ⟨0, by rw [h]; decide +kernel⟩
  · exact ⟨255, by rw [h]; decide +kernel⟩
  · obtain ⟨m, e, hm, hy, he, hbelow⟩ := exists_significand_of_unit hpos hlt
    have hbyte : (255.0 : Float).toModel.unpack =
        .finite .positive (255 * 2 ^ 45) (-45) (by decide) := by rfl
    have hshift : (-(e + -45)).toNat = (-e).toNat + 45 := by omega
    have hproduct : m * (255 * 2 ^ 45) < 255 * 2 ^ (-(e + -45)).toNat := by
      rw [hshift, Nat.pow_add]
      omega
    have hround : (clampUnit y * 255.0).toModel.unpack = (Float.Model.pack
        (roundWithAccuracy .binary64 .positive (m * (255 * 2 ^ 45)) (e + -45) .exact)).unpack := by
      change (Float.Model.pack (mul .binary64 (clampUnit y).toModel.unpack
        (255.0 : Float).toModel.unpack)).unpack = _
      rw [hy, hbyte]
      rfl
    obtain ⟨t, ht, hlow, hhigh⟩ :=
      toInt_round_le (n := 255) (by decide) (by decide) (by omega) hproduct hround
    exact ⟨⟨t.toNat, by omega⟩, ht.trans (congrArg _ (Int.toNat_of_nonneg hlow).symm)⟩

/-- **Channels that are brought into their ranges** are next to bytes. -/
theorem exists_nearBytes {red green blue alpha : Float} (h : make red green blue alpha = .ok color) :
    ∃ r g b a, color.NearBytes r g b a := by
  have hchannel {x : Float} {k : ℤ} (hk : clampChannel x = .ok k) : ∃ r : Fin 256, k = r.val := by
    obtain ⟨t, -, hk⟩ := ok_of_bind hk
    obtain rfl := Except.ok.inj hk
    exact ⟨⟨(max 0 (min 255 t)).toNat, by omega⟩, by simp⟩
  obtain ⟨k, hred, h⟩ := ok_of_bind h
  obtain ⟨l, hgreen, h⟩ := ok_of_bind h
  obtain ⟨m, hblue, h⟩ := ok_of_bind h
  obtain rfl := Except.ok.inj h
  obtain ⟨r, hr⟩ := hchannel hred
  obtain ⟨g, hg⟩ := hchannel hgreen
  obtain ⟨b, hb⟩ := hchannel hblue
  obtain ⟨a, ha⟩ := exists_byte_of_unit alpha
  exact ⟨r, g, b, a, hr, hg, hb, ha⟩

/-- Different bytes make different colors. -/
theorem ofBytes_inj {r' g' b' a' : Fin 256} (h : ofBytes r g b a = ofBytes r' g' b' a') :
    r = r' ∧ g = g' ∧ b = b' ∧ a = a' := by
  have hleft := nearBytes_ofBytes r g b a
  have hright := nearBytes_ofBytes r' g' b' a'
  rw [← h] at hright
  have halpha := Except.ok.inj (hleft.alpha.symm.trans hright.alpha)
  have hred := hleft.red.symm.trans hright.red
  have hgreen := hleft.green.symm.trans hright.green
  have hblue := hleft.blue.symm.trans hright.blue
  omega

/-- **Packing and unpacking undo each other.** A word packs into itself once it is unpacked, and four
bytes are unpacked from what they pack into, which is different for different bytes. Any other number
is unpacked as the word next to it. A color whose channels are brought into their ranges keeps them
on the way, and its alpha goes to the nearest byte; a second trip changes nothing any more. -/
theorem pack_unpack_inverse :
    (∀ v : ℤ, 0 ≤ v → v < 2 ^ 32 → (unpack (Float.ofInt v)).pack = .ok (Float.ofInt v)) ∧
    (∀ r g b a, ∃ x, (ofBytes r g b a).pack = .ok x ∧ unpack x = ofBytes r g b a) ∧
    (∀ x, 0 ≤ clampedWord x ∧ clampedWord x < 2 ^ 32 ∧
      unpack x = unpack (Float.ofInt (clampedWord x))) ∧
    (∀ red green blue alpha c, make red green blue alpha = .ok c →
      ∃ r g b a x, c.NearBytes r g b a ∧ c.pack = .ok x ∧ unpack x = ofBytes r g b a ∧
        (unpack x).pack = .ok x) ∧
    ∀ r g b a r' g' b' a', (ofBytes r g b a).pack = (ofBytes r' g' b' a').pack →
      r = r' ∧ g = g' ∧ b = b' ∧ a = a' := by
  have hpack (r g b a : Fin 256) := (nearBytes_ofBytes r g b a).pack
  refine ⟨fun v hv hv' => ?_, fun r g b a => ⟨_, hpack r g b a, unpack_word r g b a⟩, fun x => ?_,
    fun red green blue alpha c hc => ?_, fun r g b a r' g' b' a' h => ?_⟩
  · obtain ⟨r, g, b, a, hword⟩ := exists_word (n := v.toNat) (by omega)
    obtain rfl : (word r g b a : ℤ) = v := by omega
    rw [unpack_word]
    exact hpack r g b a
  · obtain ⟨hlow, hhigh⟩ := clampedWord_bounds x
    refine ⟨hlow, hhigh, ?_⟩
    obtain ⟨r, g, b, a, hword⟩ := exists_word (n := (clampedWord x).toNat) (by omega)
    have hx := packedNat_eq x
    have hclamped : clampedWord x = word r g b a := by omega
    rw [unpack_of_packedNat (r := r) (g := g) (b := b) (a := a) (by omega), hclamped, unpack_word]
  · obtain ⟨r, g, b, a, hnear⟩ := exists_nearBytes hc
    refine ⟨r, g, b, a, _, hnear, hnear.pack, unpack_word r g b a, ?_⟩
    rw [unpack_word]
    exact hpack r g b a
  · rw [hpack, hpack] at h
    have hcolor := congrArg unpack (Except.ok.inj h)
    rw [unpack_word, unpack_word] at hcolor
    exact ofBytes_inj hcolor

/-- Teal, a half of it, and the last bit of alpha. -/
theorem pack_unpack_inverse_teal :
    (unpack (Float.ofInt 0x8080FF)).pack = .ok (Float.ofInt 0x8080FF) ∧
      (∃ c x, make 0.0 128.0 128.0 0.5 = .ok c ∧ c.pack = .ok x ∧ (unpack x).pack = .ok x) ∧
      (ofBytes 0 128 128 255).pack ≠ (ofBytes 0 128 128 254).pack := by
  obtain ⟨hwords, -, -, hmade, hbytes⟩ := pack_unpack_inverse
  obtain ⟨c, -, hc, -⟩ := exists_make (r := 0.0) (g := 128.0) (b := 128.0) (by decide +kernel)
    (by decide +kernel) (by decide +kernel) 0.5
  obtain ⟨_, _, _, _, x, -, hx, -, hback⟩ := hmade _ _ _ _ _ hc
  refine ⟨hwords _ (by decide) (by decide), ⟨c, x, hc, hx, hback⟩, fun h => ?_⟩
  have hlast : (255 : Fin 256) = 254 := (hbytes _ _ _ _ _ _ _ _ h).2.2.2
  exact absurd hlast (by decide)

end Color

end ValuedGraph
