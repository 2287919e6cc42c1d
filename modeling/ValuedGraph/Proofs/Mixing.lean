import ValuedGraph.Proofs.Color
import ValuedGraph.Proofs.Failing
import ValuedGraph.Proofs.Number.Arithmetic

/-!
# Colors from numbers

Any numbers make a color if the channels are finite. Averages of bytes are finite, and so is what
lies between two bytes, so only a color from channels that an author computes may fail.

* `Color.exists_make`, `Color.make_onlyFails`: **a color from channels,** and why there is none.
* `Color.exists_mix`: colors with channels of one byte have an average.
* `Color.exists_interpolate`: there is a color on the way from one such color to another.
-/

namespace ValuedGraph

open Rounding

namespace Color

variable {x r g b : Float} {fault : NumericFault}

theorem clampChannel_eq_error : clampChannel x = .error fault ↔ NoInteger x fault := by
  rw [← toInt_eq_error (d := .nearest)]
  unfold clampChannel
  cases toInt .nearest x with
  | ok n => exact ⟨nofun, nofun⟩
  | error fault' => exact Iff.rfl

/-- **Finite channels are brought into their range,** and no others. -/
theorem exists_clampChannel : (∃ n, clampChannel x = .ok n) ↔ x.isFinite = true := by
  constructor
  · rintro ⟨n, hn⟩
    by_contra hnot
    rw [Bool.not_eq_true, ← exists_noInteger] at hnot
    obtain ⟨fault, hfault⟩ := hnot
    rw [clampChannel_eq_error.2 hfault] at hn
    cases hn
  · intro h
    cases hx : clampChannel x with
    | ok n => exact ⟨n, rfl⟩
    | error fault =>
      have hnot := exists_noInteger.1 ⟨fault, clampChannel_eq_error.1 hx⟩
      rw [h] at hnot
      cases hnot

/-- **Finite channels make a color that has a packed number,** whatever alpha is. -/
theorem exists_make (hr : r.isFinite = true) (hg : g.isFinite = true) (hb : b.isFinite = true)
    (a : Float) : ∃ c x, make r g b a = .ok c ∧ c.pack = .ok x := by
  obtain ⟨red, hred⟩ := exists_clampChannel.2 hr
  obtain ⟨green, hgreen⟩ := exists_clampChannel.2 hg
  obtain ⟨blue, hblue⟩ := exists_clampChannel.2 hb
  have hmake : make r g b a = .ok { red, green, blue, alpha := clampUnit a } := by
    unfold make
    rw [bind_of_ok hred, bind_of_ok hgreen, bind_of_ok hblue]
    rfl
  obtain ⟨x, hx⟩ := (modest_make hmake).exists_pack
  exact ⟨_, x, hmake, hx⟩

/-- **Why channels make no color:** one of them has no integer next to it. -/
theorem make_onlyFails (a : Float) :
    OnlyFails (fun fault => ∃ x ∈ [r, g, b], NoInteger x fault) (make r g b a) := by
  have hchannel (x : Float) (hx : x ∈ [r, g, b]) :
      OnlyFails (fun fault => ∃ x ∈ [r, g, b], NoInteger x fault) (clampChannel x) :=
    fun fault h => ⟨x, hx, clampChannel_eq_error.1 h⟩
  refine (hchannel r (by simp)).bind fun red _ => ?_
  refine (hchannel g (by simp)).bind fun green _ => ?_
  refine (hchannel b (by simp)).bind fun blue _ => ?_
  exact .pure _

/-- A color has only finite channels. -/
theorem isFinite_of_make {a : Float} {c : Color} (h : make r g b a = .ok c) :
    r.isFinite = true ∧ g.isFinite = true ∧ b.isFinite = true := by
  obtain ⟨red, hred, h⟩ := ok_of_bind h
  obtain ⟨green, hgreen, h⟩ := ok_of_bind h
  obtain ⟨blue, hblue, -⟩ := ok_of_bind h
  exact ⟨exists_clampChannel.1 ⟨red, hred⟩, exists_clampChannel.1 ⟨green, hgreen⟩,
    exists_clampChannel.1 ⟨blue, hblue⟩⟩

/-- **A color with channels of one byte.** -/
structure Bytes (c : Color) : Prop where
  red : 0 ≤ c.red ∧ c.red ≤ 255
  green : 0 ≤ c.green ∧ c.green ≤ 255
  blue : 0 ≤ c.blue ∧ c.blue ≤ 255

theorem bytes_unpack (x : Float) : (unpack x).Bytes := by
  constructor <;> simp only [unpack] <;> omega

/-! ## Averages -/

/-- A sum of bytes. -/
theorem natAbs_sum_le (channels : List ℤ) (h : ∀ n ∈ channels, 0 ≤ n ∧ n ≤ 255) :
    (channels.foldl (· + ·) 0).natAbs ≤ 255 * channels.length := by
  have hlow : 0 ≤ channels.sum := List.sum_nonneg fun n hn => (h n hn).1
  have hhigh : channels.sum ≤ channels.length • 255 :=
    List.sum_le_card_nsmul _ _ fun n hn => (h n hn).2
  rw [← List.sum_eq_foldl]
  rw [nsmul_eq_mul] at hhigh
  omega

theorem exists_average {colors : List Color} {channel : Color → ℤ} (hne : colors ≠ [])
    (h : ∀ c ∈ colors, 0 ≤ channel c ∧ channel c ≤ 255) :
    ∃ x, ofQuotient ((colors.map channel).foldl (· + ·) 0) colors.length = .ok x ∧
      x.isFinite = true := by
  have hsum := natAbs_sum_le (colors.map channel) (by simpa using h)
  rw [List.length_map] at hsum
  obtain ⟨x, hx, hsize⟩ := exists_ofQuotient (List.length_pos_of_ne_nil hne) hsum
  exact ⟨x, hx, hsize.isFinite⟩

/-- **Colors have an average,** unless there are none. -/
theorem exists_mix {colors : List Color} (hne : colors ≠ []) (h : ∀ c ∈ colors, c.Bytes) :
    ∃ c x, mix colors = .ok c ∧ c.pack = .ok x := by
  obtain ⟨r, hr, hrfinite⟩ := exists_average hne fun c hc => (h c hc).red
  obtain ⟨g, hg, hgfinite⟩ := exists_average hne fun c hc => (h c hc).green
  obtain ⟨b, hb, hbfinite⟩ := exists_average hne fun c hc => (h c hc).blue
  obtain ⟨c, x, hmake, hpack⟩ := exists_make hrfinite hgfinite hbfinite
    (compensatedSum (colors.map alpha) / Float.ofNat colors.length)
  refine ⟨c, x, ?_, hpack⟩
  unfold mix
  rw [if_neg (by simpa using hne), bind_of_ok hr, bind_of_ok hg, bind_of_ok hb]
  exact hmake

/-! ## Ways from color to color -/

theorem exists_between {start stop : ℤ} (hstart : 0 ≤ start ∧ start ≤ 255)
    (hstop : 0 ≤ stop ∧ stop ≤ 255) {t : Float} (ht : Bounded 0 t.toModel.unpack) :
    ∃ x, between start stop t = .ok x ∧ x.isFinite = true := by
  have hbyte {n : ℤ} (hn : n.natAbs < 256) : Bounded 10 (Float.ofInt n).toModel.unpack := by
    have hlog : n.natAbs.log2 ≤ 7 := log2_le_of_lt hn
    exact (bounded_ofInt (by omega)).mono (by omega)
  have hway : Bounded 12 (Float.ofInt (stop - start) * t).toModel.unpack :=
    bounded_pack (bounded_mul (hbyte (by omega)) ht (by omega)) (by omega) (by omega)
  have hsum : Bounded 14 (Float.ofInt start + Float.ofInt (stop - start) * t).toModel.unpack :=
    bounded_pack (bounded_add ((hbyte (by omega)).mono (by omega)) hway (by omega)) (by omega)
      (by omega)
  refine ⟨_, ?_, hsum.isFinite⟩
  unfold between
  rw [bind_of_ok (ofInt_ok (by omega)), bind_of_ok (ofInt_ok (by omega))]
  rfl

/-- **There is a color on the way** from one color to another, whatever the progress is. -/
theorem exists_interpolate {start stop : Color} (hstart : start.Bytes) (hstop : stop.Bytes)
    (progress : Float) : ∃ c x, interpolate start stop progress = .ok c ∧ c.pack = .ok x := by
  have ht := bounded_clampUnit progress
  obtain ⟨r, hr, hrfinite⟩ := exists_between hstart.red hstop.red ht
  obtain ⟨g, hg, hgfinite⟩ := exists_between hstart.green hstop.green ht
  obtain ⟨b, hb, hbfinite⟩ := exists_between hstart.blue hstop.blue ht
  obtain ⟨c, x, hmake, hpack⟩ := exists_make hrfinite hgfinite hbfinite
    (start.alpha + (stop.alpha - start.alpha) * clampUnit progress)
  refine ⟨c, x, ?_, hpack⟩
  unfold interpolate
  rw [bind_of_ok hr, bind_of_ok hg, bind_of_ok hb]
  exact hmake

end Color

end ValuedGraph
