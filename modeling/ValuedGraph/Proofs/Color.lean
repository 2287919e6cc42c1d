import ValuedGraph.Color
import ValuedGraph.Proofs.Number.Doubles
import ValuedGraph.Proofs.Succeeding

/-!
# The colors of texts

A color travels as one number, and not every color has one: its channels may have too many bits, and
its alpha may be no finite number. The colors that texts write have a number, though hexadecimal
digits may have a sign and channels may be negative.

* `spread_bitOr_lt`: the bits of either number.
* `readHex_lt`: **the numbers that hexadecimal digits write.**
* `Color.Modest`, `Color.modest_ofText`: the size of colors, and of those of texts.
* `Color.exists_pack_of_ofText`: **the color of a text has a packed number.**
-/

namespace ValuedGraph

open Rounding

/-! ## Bits of integers -/

/-- How far an integer is from the nearer one of zero and minus one: the number that its bits write,
once leading ones are turned over. -/
def spread : ℤ → ℕ
  | .ofNat n => n
  | .negSucc n => n

theorem spread_le (n : ℤ) : spread n ≤ n.natAbs ∧ n.natAbs ≤ spread n + 1 := by
  cases n <;> simp [spread]

/-- **The bits of either number** are no more than those of the larger one. -/
theorem spread_bitOr_lt {a b : ℤ} {k : ℕ} (ha : spread a < 2 ^ k) (hb : spread b < 2 ^ k) :
    spread (bitOr a b) < 2 ^ k := by
  cases a with
  | ofNat a =>
    cases b with
    | ofNat b => exact Nat.or_lt_two_pow ha hb
    | negSucc b => exact Nat.xor_lt_two_pow hb (Nat.and_lt_two_pow a hb)
  | negSucc a =>
    cases b with
    | ofNat b => exact Nat.xor_lt_two_pow ha (Nat.and_lt_two_pow a hb)
    | negSucc b => exact Nat.and_lt_two_pow a hb

/-! ## Digits -/

theorem hexValue_lt {c : Char} {n : ℕ} (h : hexValue? c = some n) : n < 16 := by
  have hle (a b : Char) : a ≤ b ↔ a.toNat ≤ b.toNat := Iff.rfl
  unfold hexValue? at h
  simp only [Bool.and_eq_true, decide_eq_true_eq, hle, Char.reduceToNat] at h
  split_ifs at h <;> obtain rfl := Option.some.inj h <;> omega

/-- Each digit multiplies by 16 at most. -/
theorem hexRun_lt {n : ℕ} {joined : Bool} {cs rest : List Char} {k : ℕ}
    (h : hexRun n joined cs = some (k, rest)) : k < (n + 1) * 16 ^ cs.length := by
  have hone (n l : ℕ) : n < (n + 1) * 16 ^ l := by
    have := Nat.le_mul_of_pos_right (n + 1) (Nat.pow_pos (n := l) (by decide : 0 < 16))
    omega
  fun_induction hexRun n joined cs with
  | case2 n joined hjoined =>
    obtain ⟨rfl, -⟩ := Prod.mk.inj (Option.some.inj h)
    exact hone n 0
  | case4 n joined rest' hjoined ih =>
    have := ih h
    calc k < (n + 1) * 16 ^ rest'.length := this
      _ ≤ (n + 1) * 16 ^ (rest'.length + 1) :=
        Nat.mul_le_mul_left _ (Nat.pow_le_pow_right (by decide) (Nat.le_succ _))
  | case5 n joined c rest' hc d hd ih =>
    have hdigit := hexValue_lt hd
    calc k < (16 * n + d + 1) * 16 ^ rest'.length := ih h
      _ ≤ (n + 1) * 16 * 16 ^ rest'.length := Nat.mul_le_mul_right _ (by omega)
      _ = (n + 1) * 16 ^ (rest'.length + 1) := by rw [Nat.mul_assoc, Nat.pow_succ']
  | case7 n joined c rest' hc hd hjoined =>
    obtain ⟨rfl, -⟩ := Prod.mk.inj (Option.some.inj h)
    exact hone n _
  | _ => cases h

theorem length_dropHexMark_le (cs : List Char) : (dropHexMark cs).length ≤ cs.length := by
  unfold dropHexMark
  (repeat' split) <;> simp <;> omega

theorem length_takeSign_le (cs : List Char) : (takeSign cs).2.length ≤ cs.length := by
  unfold takeSign
  split <;> simp

theorem length_asciiForm (cs : List Char) : (asciiForm cs).length = cs.length := by
  unfold asciiForm
  split <;> simp

/-- **Hexadecimal digits,** with a sign or without. -/
theorem readHex_lt {cs : List Char} {n : ℤ} (h : readHex? cs = some n) :
    n.natAbs < 16 ^ cs.length := by
  unfold readHex? at h
  dsimp only at h
  generalize hstart : (asciiForm cs).dropWhile isAsciiBlank = start at h
  have hlength : (dropHexMark (takeSign start).2).length ≤ cs.length := by
    calc (dropHexMark (takeSign start).2).length ≤ (takeSign start).2.length :=
          length_dropHexMark_le _
      _ ≤ start.length := length_takeSign_le _
      _ ≤ (asciiForm cs).length := hstart ▸ (List.dropWhile_sublist _).length_le
      _ = cs.length := length_asciiForm cs
  generalize dropHexMark (takeSign start).2 = digits at h hlength
  cases digits with
  | nil => cases h
  | cons c rest =>
    dsimp only at h
    split at h
    · cases h
    · split at h
      · rename_i k after hrun
        split at h
        · obtain rfl := Option.some.inj h
          have hk : (if (takeSign start).1 then -(k : ℤ) else k).natAbs = k := by
            split <;> simp
          rw [hk]
          calc k < (0 + 1) * 16 ^ (c :: rest).length := hexRun_lt hrun
            _ ≤ 16 ^ cs.length := by
              rw [Nat.zero_add, Nat.one_mul]
              exact Nat.pow_le_pow_right (by decide) hlength
        · cases h
      · cases h

namespace Color

/-- **A color of the size that texts give:** its channels have eight bits, with a sign, and its
alpha is finite and small. -/
structure Modest (c : Color) : Prop where
  red : c.red.natAbs < 256
  green : c.green.natAbs < 256
  blue : c.blue.natAbs < 256
  alpha : Bounded 4 c.alpha.toModel.unpack

/-- Four numbers of eight bits, the last of which may be longer, have 32 bits together. -/
theorem spread_packedInt_lt {c : Color} {alpha : ℤ} (hred : c.red.natAbs < 256)
    (hgreen : c.green.natAbs < 256) (hblue : c.blue.natAbs < 256) (halpha : alpha.natAbs < 2 ^ 32) :
    spread (c.packedInt alpha) < 2 ^ 32 := by
  have hspread (n : ℤ) (hn : n.natAbs < 2 ^ 32) : spread n < 2 ^ 32 := (spread_le n).1.trans_lt hn
  exact spread_bitOr_lt (spread_bitOr_lt (spread_bitOr_lt (hspread _ (by omega))
    (hspread _ (by omega))) (hspread _ (by omega))) (hspread _ halpha)

/-- **Such a color has a packed number.** -/
theorem Modest.exists_pack {c : Color} (h : c.Modest) : ∃ x, c.pack = .ok x := by
  have hbyte : Bounded 7 (255.0 : Float).toModel.unpack := by decide +kernel
  have hproduct : Bounded 13 (c.alpha * 255.0).toModel.unpack :=
    bounded_pack (bounded_mul h.alpha hbyte (by omega)) (by omega) (by omega)
  obtain ⟨alpha, halpha, hsmall⟩ := exists_toInt (b := 13) .nearest hproduct
  have hpacked := spread_packedInt_lt h.red h.green h.blue (by omega : alpha.natAbs < 2 ^ 32)
  have hsize := (spread_le (c.packedInt alpha)).2
  exact ⟨_, (bind_of_ok halpha _).trans (ofInt_ok (by omega))⟩

theorem pairChannels_lt {cs : List Char} {ns : List ℤ} (h : pairChannels cs = some ns) :
    ∀ n ∈ ns, n.natAbs < 256 := by
  fun_induction pairChannels cs generalizing ns with
  | case1 =>
    obtain rfl := Option.some.inj h
    simp
  | case2 => cases h
  | case3 a b rest ih =>
    obtain ⟨n, hn, h⟩ := Option.bind_eq_some_iff.1 h
    obtain ⟨ns', hns', h⟩ := Option.bind_eq_some_iff.1 h
    obtain rfl := Option.some.inj h
    simpa using ⟨readHex_lt hn, ih hns'⟩

theorem clampChannel_lt {x : Float} {n : ℤ} (h : clampChannel x = .ok n) : n.natAbs < 256 := by
  obtain ⟨k, -, h⟩ := ok_of_bind h
  obtain rfl := Except.ok.inj h
  omega

theorem bounded_one : Bounded 0 (1.0 : Float).toModel.unpack := by decide +kernel

/-- **A number brought into `0..1`** is one of the ends, or between them. -/
theorem clampUnit_cases (x : Float) :
    clampUnit x = 0.0 ∨ clampUnit x = 1.0 ∨ 0.0 < clampUnit x ∧ clampUnit x < 1.0 := by
  unfold clampUnit greater
  split
  · rename_i hpos
    unfold smaller at hpos ⊢
    split
    · rename_i hlt
      rw [if_pos hlt] at hpos
      exact .inr (.inr ⟨hpos, hlt⟩)
    · exact .inr (.inl rfl)
  · exact .inl rfl

theorem bounded_clampUnit (x : Float) : Bounded 0 (clampUnit x).toModel.unpack := by
  rcases clampUnit_cases x with h | h | ⟨hpos, hlt⟩
  · rw [h]
    decide +kernel
  · rw [h]
    exact bounded_one
  · exact bounded_of_lt_one hpos hlt

/-- The part that a pair of digits is of the largest one. -/
theorem bounded_ofInt_div {n : ℤ} (hn : n.natAbs < 256) :
    Bounded 4 (Float.ofInt n / 255.0).toModel.unpack := by
  have hbyte : (255.0 : Float).toModel.unpack =
      .finite .positive (255 * 2 ^ 45) (-45) (by decide) := by rfl
  have hlog : n.natAbs.log2 ≤ 7 := log2_le_of_lt hn
  have hsize : Bounded 10 (Float.ofInt n).toModel.unpack :=
    (bounded_ofInt (by omega)).mono (by omega)
  have hquotient : Bounded (10 - 7 + 1)
      (Float.Model.UnpackedFloat.div .binary64 (Float.ofInt n).toModel.unpack
        (255.0 : Float).toModel.unpack) := by
    rw [hbyte]
    exact bounded_div hsize (by decide +kernel) (by omega)
  exact bounded_pack hquotient (by omega) (by omega)

theorem modest_make {r g b a : Float} {c : Color} (h : make r g b a = .ok c) : c.Modest := by
  obtain ⟨red, hred, h⟩ := ok_of_bind h
  obtain ⟨green, hgreen, h⟩ := ok_of_bind h
  obtain ⟨blue, hblue, h⟩ := ok_of_bind h
  obtain rfl := Except.ok.inj h
  exact ⟨clampChannel_lt hred, clampChannel_lt hgreen, clampChannel_lt hblue,
    (bounded_clampUnit a).mono (by omega)⟩

theorem modest_ofHexDigits {text : String} {digits : List Char} {c : Color}
    (h : ofHexDigits text digits = .ok c) : c.Modest := by
  unfold ofHexDigits at h
  dsimp only at h
  generalize (if digits.length = 3 || digits.length = 4 then digits.flatMap fun c => [c, c]
    else digits) = full at h
  split at h
  · split at h
    · rename_i r g b hpairs
      obtain rfl := Except.ok.inj h
      have hlt := pairChannels_lt hpairs
      exact ⟨hlt r (by simp), hlt g (by simp), hlt b (by simp), bounded_one.mono (by omega)⟩
    · rename_i r g b a hpairs
      obtain rfl := Except.ok.inj h
      have hlt := pairChannels_lt hpairs
      exact ⟨hlt r (by simp), hlt g (by simp), hlt b (by simp),
        bounded_ofInt_div (hlt a (by simp))⟩
    · cases h
  · cases h

theorem modest_ofBody {text : String} {body : List Char} {c : Color}
    (h : ofBody text body = .ok c) : c.Modest := by
  unfold ofBody at h
  dsimp only at h
  split at h
  · split at h
    · exact modest_make (ok_of_mapError h)
    · exact modest_make (ok_of_mapError h)
    · cases h
  · cases h

/-- **The colors of texts are modest.** -/
theorem modest_ofText {text : String} {c : Color} (h : ofText text = .ok c) : c.Modest := by
  have hnamed : ∀ p ∈ named, p.2.1 < 256 ∧ p.2.2.1 < 256 ∧ p.2.2.2 < 256 := by decide
  unfold ofText at h
  dsimp only at h
  split at h
  · exact modest_ofHexDigits h
  · split at h
    · exact modest_ofBody h
    · split at h
      · obtain rfl := Except.ok.inj h
        exact ⟨by decide, by decide, by decide, by decide +kernel⟩
      · split at h
        · rename_i r g b hlookup
          obtain rfl := Except.ok.inj h
          obtain ⟨before, after, hsplit, -⟩ := List.lookup_eq_some_iff.1 hlookup
          obtain ⟨hr, hg, hb⟩ := hnamed _ (hsplit ▸ List.mem_append_cons_self)
          exact ⟨hr, hg, hb, bounded_one.mono (by omega)⟩
        · cases h

/-- **The color of a text has a packed number.** -/
theorem exists_pack_of_ofText {text : String} {c : Color} (h : ofText text = .ok c) :
    ∃ x, c.pack = .ok x :=
  (modest_ofText h).exists_pack

end Color

end ValuedGraph
