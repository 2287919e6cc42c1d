import ValuedGraph.Proofs.Hexadecimal
import ValuedGraph.Proofs.Number.Integers

/-!
# Hexadecimal colors

A text of a hash sign and hexadecimal digits is a color, with two digits for each channel, or one
that counts twice. Every pair of digits is a number of its own, so a sign in the place of a digit
makes a channel negative. Without one, a color has its channels in their ranges, and it packs into
32 bits.

* `Color.Channels`, `Color.ofHexDigits_iff`: **the channels that digits write.**
* `Color.exists_channels_iff`: how many digits there must be.
* `Color.InRange`, `Color.OfPairs.exists_pack`: **packed channels,** which are bytes or negative.
* `Color.ofText_hex`: **hexadecimal colors.**
-/

namespace ValuedGraph

variable {k : ℤ}

namespace Color

/-! ## Channels -/

/-- **The channels that digits write,** if `R` says what two characters do: three or four
characters that count twice, or as many pairs of them. -/
inductive Channels (R : Char → Char → ℤ → Prop) : List Char → List ℤ → Prop
  | doubled {digits : List Char} {ks : List ℤ} (h : digits.length = 3 ∨ digits.length = 4)
    (hall : List.Forall₂ (fun c k => R c c k) digits ks) : Channels R digits ks
  | paired {pairs : List (Char × Char)} {ks : List ℤ} (h : pairs.length = 3 ∨ pairs.length = 4)
    (hall : List.Forall₂ (fun p k => R p.1 p.2 k) pairs ks) :
    Channels R (pairs.flatMap fun p => [p.1, p.2]) ks

/-- A color of three channels, or of four. The last one is alpha, as a part of 255. -/
def ofChannels? : List ℤ → Option Color
  | [r, g, b] => some { red := r, green := g, blue := b }
  | [r, g, b, a] => some { red := r, green := g, blue := b, alpha := Float.ofInt a / 255.0 }
  | _ => none

variable {R : Char → Char → ℤ → Prop} {text : String} {digits : List Char} {ks : List ℤ}
  {pairs : List (Char × Char)} {color : Color}

theorem Channels.length_eq (h : Channels R digits ks) : ks.length = 3 ∨ ks.length = 4 := by
  cases h with
  | doubled h hall => rwa [hall.length_eq] at h
  | paired h hall => rwa [hall.length_eq] at h

theorem Channels.exists_color (h : Channels R digits ks) : ∃ color, ofChannels? ks = some color := by
  rcases h.length_eq with hlength | hlength
  · obtain ⟨r, g, b, rfl⟩ := List.length_eq_three.1 hlength
    exact ⟨_, rfl⟩
  · match ks, hlength with
    | [r, g, b, a], _ => exact ⟨_, rfl⟩

theorem Channels.imp {S : Char → Char → ℤ → Prop} {p : Char → Prop} (h : Channels R digits ks)
    (hp : ∀ c ∈ digits, p c) (himp : ∀ a b k, p a → p b → R a b k → S a b k) :
    Channels S digits ks := by
  cases h with
  | doubled h hall =>
    refine .doubled h (((List.forall₂_and_left _ _).2 ⟨hp, hall⟩).imp ?_)
    exact fun c k hc => himp c c k hc.1 hc.1 hc.2
  | @paired pairs _ h hall =>
    have hpairs : ∀ q ∈ pairs, p q.1 ∧ p q.2 := fun q hq =>
      ⟨hp _ (List.mem_flatMap.2 ⟨q, hq, by simp⟩), hp _ (List.mem_flatMap.2 ⟨q, hq, by simp⟩)⟩
    refine .paired h (((List.forall₂_and_left _ _).2 ⟨hpairs, hall⟩).imp ?_)
    exact fun q k hq => himp q.1 q.2 k hq.1.1 hq.1.2 hq.2

theorem Channels.forall_mem {P : ℤ → Prop} (h : Channels R digits ks)
    (hP : ∀ a b k, R a b k → P k) : ∀ k ∈ ks, P k := by
  cases h with
  | doubled h hall => exact forall_mem_of_forall₂ hall fun c k => hP c c k
  | paired h hall => exact forall_mem_of_forall₂ hall fun p k => hP p.1 p.2 k

theorem pairChannels_iff : pairChannels (pairs.flatMap fun p => [p.1, p.2]) = some ks ↔
    List.Forall₂ (fun p k => PairReads p.1 p.2 k) pairs ks := by
  induction pairs generalizing ks with
  | nil => simp [pairChannels, eq_comm]
  | cons p pairs ih =>
    change pairChannels (p.1 :: p.2 :: pairs.flatMap fun p => [p.1, p.2]) = some ks ↔ _
    rw [pairChannels, List.forall₂_cons_left_iff]
    simp only [Option.bind_eq_bind, Option.bind_eq_some_iff, readHex_two, ih]
    constructor
    · rintro ⟨k, hk, ks', hks, h⟩
      exact ⟨k, ks', hk, hks, (Option.some.inj h).symm⟩
    · rintro ⟨k, ks', hk, hks, rfl⟩
      exact ⟨k, hk, ks', hks, rfl⟩

theorem exists_pairs {n : ℕ} (h : digits.length = 2 * n) :
    ∃ pairs : List (Char × Char), pairs.length = n ∧ digits = pairs.flatMap fun p => [p.1, p.2] := by
  induction n generalizing digits with
  | zero => exact ⟨[], rfl, List.length_eq_zero_iff.1 h⟩
  | succ n ih =>
    match digits, h with
    | a :: b :: rest, h =>
      have hrest : rest.length = 2 * n := by
        simp only [List.length_cons] at h
        omega
      obtain ⟨pairs, hlength, rfl⟩ := ih hrest
      exact ⟨(a, b) :: pairs, by simp [hlength], rfl⟩

/-- The digits once every channel has two. -/
def doubled (digits : List Char) : List Char :=
  if digits.length = 3 || digits.length = 4 then digits.flatMap fun c => [c, c] else digits

theorem ofHexDigits_eq : ofHexDigits text digits =
    if (doubled digits).length = 6 || (doubled digits).length = 8 then
      match (pairChannels (doubled digits)).bind ofChannels? with
      | some color => .ok color
      | none => .error (.badHex text)
    else .error (.badHex text) := by
  unfold ofHexDigits doubled
  dsimp only
  generalize (if digits.length = 3 || digits.length = 4 then digits.flatMap fun c => [c, c]
    else digits) = full
  congr 1
  cases pairChannels full with
  | none => rfl
  | some ks =>
    match ks with
    | [] | [_] | [_, _] | [_, _, _] | [_, _, _, _] | _ :: _ :: _ :: _ :: _ :: _ => rfl

theorem ofHexDigits_error {e : ColorError} (h : ofHexDigits text digits = .error e) :
    e = .badHex text := by
  rw [ofHexDigits_eq] at h
  split at h
  · split at h
    · cases h
    · exact (Except.error.inj h).symm
  · exact (Except.error.inj h).symm

theorem ofHexDigits_ok : ofHexDigits text digits = .ok color ↔
    ((doubled digits).length = 6 ∨ (doubled digits).length = 8) ∧
      ∃ ks, pairChannels (doubled digits) = some ks ∧ ofChannels? ks = some color := by
  rw [ofHexDigits_eq, ← Option.bind_eq_some_iff]
  simp only [Bool.or_eq_true, decide_eq_true_eq]
  split
  · rename_i hlength
    cases (pairChannels (doubled digits)).bind ofChannels? <;> simp [hlength]
  · rename_i hlength
    simp [hlength]

theorem length_flatMap_pairs (pairs : List (Char × Char)) :
    (pairs.flatMap fun p => [p.1, p.2]).length = 2 * pairs.length := by
  simp [List.length_flatMap, mul_comm]

theorem doubled_of_short (h : digits.length = 3 ∨ digits.length = 4) :
    doubled digits = (digits.map fun c => (c, c)).flatMap fun p => [p.1, p.2] := by
  rw [doubled, if_pos (by simpa using h), List.flatMap_map]

theorem doubled_of_not_short (h : ¬ (digits.length = 3 ∨ digits.length = 4)) :
    doubled digits = digits := by
  rw [doubled, if_neg (by simpa using h)]

/-- **Hexadecimal digits are a color** if they write its channels, and only then. -/
theorem ofHexDigits_iff : ofHexDigits text digits = .ok color ↔
    ∃ ks, Channels PairReads digits ks ∧ ofChannels? ks = some color := by
  rw [ofHexDigits_ok]
  constructor
  · rintro ⟨hlength, ks, hks, hcolor⟩
    refine ⟨ks, ?_, hcolor⟩
    by_cases hshort : digits.length = 3 ∨ digits.length = 4
    · rw [doubled_of_short hshort, pairChannels_iff, List.forall₂_map_left_iff] at hks
      exact .doubled hshort hks
    · rw [doubled_of_not_short hshort] at hlength hks
      obtain ⟨pairs, hpairs, rfl⟩ := exists_pairs (show digits.length = 2 * (digits.length / 2) by omega)
      rw [length_flatMap_pairs] at hlength
      exact .paired (by omega) (pairChannels_iff.1 hks)
  · rintro ⟨ks, hks, hcolor⟩
    cases hks with
    | doubled h hall =>
      rw [doubled_of_short h, length_flatMap_pairs, List.length_map]
      refine ⟨by omega, ks, pairChannels_iff.2 ?_, hcolor⟩
      exact List.forall₂_map_left_iff.2 hall
    | @paired pairs _ h hall =>
      have hlength := length_flatMap_pairs pairs
      rw [doubled_of_not_short (by omega)]
      exact ⟨by omega, ks, pairChannels_iff.2 hall, hcolor⟩

/-- Digits write channels if they are as many as three or four channels have. -/
theorem exists_channels_iff : (∃ ks, Channels DigitPair digits ks) ↔
    digits.length ∈ [3, 4, 6, 8] ∧ ∀ d ∈ digits, d ∈ sixteenDigits := by
  constructor
  · rintro ⟨ks, hks⟩
    cases hks with
    | doubled h hall =>
      refine ⟨by simp; omega, ?_⟩
      refine forall_mem_of_forall₂ hall.flip ?_
      rintro k c ⟨m, n, hm, -⟩
      exact List.mem_of_getElem? hm
    | @paired pairs _ h hall =>
      have hpairs : ∀ p ∈ pairs, p.1 ∈ sixteenDigits ∧ p.2 ∈ sixteenDigits := by
        refine forall_mem_of_forall₂ hall.flip ?_
        rintro k p ⟨m, n, hm, hn, -⟩
        exact ⟨List.mem_of_getElem? hm, List.mem_of_getElem? hn⟩
      refine ⟨?_, fun d hd => ?_⟩
      · rw [length_flatMap_pairs]
        simp
        omega
      · obtain ⟨p, hp, hd⟩ := List.mem_flatMap.1 hd
        rcases List.mem_pair.1 hd with rfl | rfl
        · exact (hpairs p hp).1
        · exact (hpairs p hp).2
  · rintro ⟨hlength, hdigits⟩
    let number (a b : Char) : ℤ := 16 * sixteenDigits.idxOf a + sixteenDigits.idxOf b
    have hplace : ∀ d ∈ digits, sixteenDigits[sixteenDigits.idxOf d]? = some d := fun d hd =>
      List.getElem?_idxOf (hdigits d hd)
    have hnumber : ∀ a ∈ digits, ∀ b ∈ digits, DigitPair a b (number a b) := fun a ha b hb =>
      ⟨_, _, hplace a ha, hplace b hb, rfl⟩
    by_cases hshort : digits.length = 3 ∨ digits.length = 4
    · refine ⟨digits.map fun c => number c c, .doubled hshort ?_⟩
      exact List.forall₂_map_right_iff.2 (List.forall₂_same.2 fun c hc => hnumber c hc c hc)
    · have hlong : digits.length = 6 ∨ digits.length = 8 := by
        simp only [List.mem_cons, List.not_mem_nil, or_false] at hlength
        omega
      obtain ⟨pairs, hpairs, rfl⟩ :=
        exists_pairs (show digits.length = 2 * (digits.length / 2) by omega)
      refine ⟨pairs.map fun p => number p.1 p.2, .paired (by omega) ?_⟩
      refine List.forall₂_map_right_iff.2 (List.forall₂_same.2 fun p hp => ?_)
      exact hnumber _ (List.mem_flatMap.2 ⟨p, hp, by simp⟩) _ (List.mem_flatMap.2 ⟨p, hp, by simp⟩)

/-! ## Ranges -/

/-- **A color whose channels are bytes and whose alpha is a part of one.** -/
structure InRange (c : Color) : Prop where
  red : 0 ≤ c.red ∧ c.red ≤ 255
  green : 0 ≤ c.green ∧ c.green ≤ 255
  blue : 0 ≤ c.blue ∧ c.blue ≤ 255
  alpha : 0.0 ≤ c.alpha ∧ c.alpha ≤ 1.0

/-- **The bits of negative numbers** make any number negative. -/
theorem bitOr_nonneg_iff {a b : ℤ} : 0 ≤ bitOr a b ↔ 0 ≤ a ∧ 0 ≤ b := by
  cases a <;> cases b <;> simp [bitOr]

theorem packedInt_nonneg_iff {alpha : ℤ} : 0 ≤ color.packedInt alpha ↔
    0 ≤ color.red ∧ 0 ≤ color.green ∧ 0 ≤ color.blue ∧ 0 ≤ alpha := by
  unfold packedInt
  rw [bitOr_nonneg_iff, bitOr_nonneg_iff, bitOr_nonneg_iff]
  omega

/-- A byte as a part of 255 lies between zero and one, and comes back from there. -/
theorem alpha_of_word : ∀ n : ℕ, n < 256 → 0.0 ≤ n.toUInt64.toFloat / 255.0 ∧
    n.toUInt64.toFloat / 255.0 ≤ 1.0 ∧
      toInt .nearest (n.toUInt64.toFloat / 255.0 * 255.0) = .ok (n : ℤ) := by
  decide +kernel

theorem alpha_of_negative : ∀ n : ℕ, n < 15 → ¬ 0.0 ≤ Float.ofInt (.negSucc n) / 255.0 ∧
    toInt .nearest (Float.ofInt (.negSucc n) / 255.0 * 255.0) = .ok (.negSucc n) := by
  decide +kernel

/-- **The alpha of a byte.** The few negative numbers that a pair writes come back, too. -/
theorem alpha_of_byte {a : ℤ} (h : -16 < a ∧ a < 256) :
    toInt .nearest (Float.ofInt a / 255.0 * 255.0) = .ok a ∧
      (0.0 ≤ Float.ofInt a / 255.0 ∧ Float.ofInt a / 255.0 ≤ 1.0 ↔ 0 ≤ a) := by
  cases a with
  | ofNat n =>
    have hn : n < 256 := Int.ofNat_lt.1 h.2
    obtain ⟨hzero, hone, hback⟩ := alpha_of_word n hn
    rw [← ofNat_eq_toFloat (hn.trans (by decide))] at hzero hone hback
    exact ⟨hback, iff_of_true ⟨hzero, hone⟩ (Int.natCast_nonneg n)⟩
  | negSucc n =>
    obtain ⟨hzero, hback⟩ := alpha_of_negative n (by omega)
    exact ⟨hback, iff_of_false (fun h => hzero h.1) (by omega)⟩

/-- A color whose channels and whose byte of alpha are numbers of the size that a pair writes. -/
structure OfPairs (c : Color) (a : ℤ) : Prop where
  red : -16 < c.red ∧ c.red < 256
  green : -16 < c.green ∧ c.green < 256
  blue : -16 < c.blue ∧ c.blue < 256
  byte : -16 < a ∧ a < 256
  alpha : c.alpha = Float.ofInt a / 255.0

theorem OfPairs.inRange_iff {a : ℤ} (h : color.OfPairs a) : color.InRange ↔
    0 ≤ color.red ∧ 0 ≤ color.green ∧ 0 ≤ color.blue ∧ 0 ≤ a := by
  have halpha := (alpha_of_byte h.byte).2
  rw [← h.alpha] at halpha
  constructor
  · rintro ⟨hred, hgreen, hblue, hone⟩
    exact ⟨hred.1, hgreen.1, hblue.1, halpha.1 hone⟩
  · rintro ⟨hred, hgreen, hblue, hbyte⟩
    exact ⟨⟨hred, Int.lt_add_one_iff.1 h.red.2⟩, ⟨hgreen, Int.lt_add_one_iff.1 h.green.2⟩,
      ⟨hblue, Int.lt_add_one_iff.1 h.blue.2⟩, halpha.2 hbyte⟩

/-- **Channels that pairs can write are packed into 32 bits** if they are in their ranges, and else
the packed number is negative. -/
theorem OfPairs.exists_pack {a : ℤ} (h : color.OfPairs a) : ∃ x, color.pack = .ok x ∧
    x < 4294967296.0 ∧ (0.0 ≤ x ↔ color.InRange) := by
  have hbyte := (alpha_of_byte h.byte).1
  rw [← h.alpha] at hbyte
  have hred := h.red
  have hgreen := h.green
  have hblue := h.blue
  have hlast := h.byte
  have hspread : spread (color.packedInt a) < 2 ^ 32 :=
    spread_packedInt_lt (by omega) (by omega) (by omega) (by omega)
  have hsize := (spread_le (color.packedInt a)).2
  have hlt : color.packedInt a < 4294967296 := by
    cases hpacked : color.packedInt a with
    | ofNat n =>
      rw [hpacked] at hspread
      exact Int.ofNat_lt.2 hspread
    | negSucc n => omega
  have hzero : (0.0 : Float) = Float.ofInt 0 := by rfl
  have htop : (4294967296.0 : Float) = Float.ofInt 4294967296 := by rfl
  refine ⟨Float.ofInt (color.packedInt a), (bind_of_ok hbyte _).trans (ofInt_ok (by omega)), ?_, ?_⟩
  · rw [htop]
    exact (ofInt_lt_ofInt (by omega) (by decide)).2 hlt
  · rw [hzero, ofInt_le_ofInt (by decide) (by omega), packedInt_nonneg_iff, h.inRange_iff]

/-- The color of channels that pairs write is in range if they are not negative. -/
theorem ofPairs_of_channels (h : Channels PairReads digits ks) (hcolor : ofChannels? ks = some color) :
    ∃ a, color.OfPairs a ∧ ((∀ k ∈ ks, 0 ≤ k) → color.InRange) := by
  have hbounds := h.forall_mem fun a b k => PairReads.bounds (k := k)
  have hwhole : (1.0 : Float) = Float.ofInt 255 / 255.0 := by decide +kernel
  rcases h.length_eq with hlength | hlength
  · obtain ⟨r, g, b, rfl⟩ := List.length_eq_three.1 hlength
    obtain rfl := Option.some.inj hcolor
    have hpairs : OfPairs { red := r, green := g, blue := b } 255 :=
      ⟨hbounds r (by simp), hbounds g (by simp), hbounds b (by simp), by decide, hwhole⟩
    refine ⟨255, hpairs, fun hks => hpairs.inRange_iff.2 ?_⟩
    exact ⟨hks r (by simp), hks g (by simp), hks b (by simp), by decide⟩
  · match ks, hlength with
    | [r, g, b, a], _ =>
      obtain rfl := Option.some.inj hcolor
      have hpairs : OfPairs { red := r, green := g, blue := b, alpha := Float.ofInt a / 255.0 } a :=
        ⟨hbounds r (by simp), hbounds g (by simp), hbounds b (by simp), hbounds a (by simp), rfl⟩
      refine ⟨a, hpairs, fun hks => hpairs.inRange_iff.2 ?_⟩
      exact ⟨hks r (by simp), hks g (by simp), hks b (by simp), hks a (by simp)⟩

/-- **Hexadecimal colors.** A text of a hash sign and digits is a color if the digits write its
channels, with two characters for each or with one that counts twice; and else the text is
rejected. Digits that are plain, with no sign or blank and no other script among them, must be the
sixteen ones, and as many as three or four channels have, and each channel is the number that its
digits write. A color that is read without a minus sign has its channels in their ranges; and those
are the colors that pack into 32 bits. The others pack into a negative number. -/
theorem ofText_hex {text : String} {digits : List Char}
    (h : (lowercase (strip text)).toList = '#' :: digits) :
    (∀ c, ofText text = .ok c ↔ ∃ ks, Channels PairReads digits ks ∧ ofChannels? ks = some c) ∧
    (∀ e, ofText text = .error e → e = .badHex (lowercase (strip text))) ∧
    ((∀ d ∈ digits, Plain d) →
      (∀ c, ofText text = .ok c ↔ ∃ ks, Channels DigitPair digits ks ∧ ofChannels? ks = some c) ∧
      ((∃ c, ofText text = .ok c) ↔
        digits.length ∈ [3, 4, 6, 8] ∧ ∀ d ∈ digits, d ∈ sixteenDigits)) ∧
    (∀ c, ofText text = .ok c → ('-' ∉ digits → c.InRange) ∧
      ∃ x, c.pack = .ok x ∧ x < 4294967296.0 ∧ (0.0 ≤ x ↔ c.InRange)) := by
  have htext : ofText text = ofHexDigits (lowercase (strip text)) digits := by
    unfold ofText
    simp only [h]
  have hok (c : Color) : ofText text = .ok c ↔
      ∃ ks, Channels PairReads digits ks ∧ ofChannels? ks = some c := by
    rw [htext, ofHexDigits_iff]
  refine ⟨hok, fun e he => ofHexDigits_error (htext.symm.trans he), fun hplain => ?_, fun c hc => ?_⟩
  · have hdigit : ∀ d ∈ digits, Plain d ∧ ¬ IsUpper d := fun d hd =>
      ⟨hplain d hd, not_isUpper_of_mem_lowercase (h ▸ List.mem_cons_of_mem _ hd)⟩
    have hchannels (ks : List ℤ) : Channels PairReads digits ks ↔ Channels DigitPair digits ks := by
      constructor <;> refine fun hks => hks.imp hdigit fun a b k ha hb => ?_
      · exact (pairReads_iff ha.1 hb.1 ha.2 hb.2).1
      · exact (pairReads_iff ha.1 hb.1 ha.2 hb.2).2
    refine ⟨fun c => ?_, ?_⟩
    · rw [hok]
      exact exists_congr fun ks => and_congr_left' (hchannels ks)
    rw [← exists_channels_iff]
    constructor
    · rintro ⟨c, hc⟩
      obtain ⟨ks, hks, -⟩ := (hok c).1 hc
      exact ⟨ks, (hchannels ks).1 hks⟩
    · rintro ⟨ks, hks⟩
      obtain ⟨c, hc⟩ := hks.exists_color
      exact ⟨c, (hok c).2 ⟨ks, (hchannels ks).2 hks, hc⟩⟩
  · obtain ⟨ks, hks, hcolor⟩ := (hok c).1 hc
    obtain ⟨a, hpairs, hrange⟩ := ofPairs_of_channels hks hcolor
    refine ⟨fun hminus => hrange ?_, hpairs.exists_pack⟩
    have hsign : ∀ d ∈ digits, d ≠ '-' := fun d hd => ne_of_mem_of_not_mem hd hminus
    exact (hks.imp (S := fun a b k => 0 ≤ k) hsign fun a b k ha _ hk => hk.nonneg ha).forall_mem
      fun a b k hk => hk

/-- Capitals, blanks around the text, and digits that count twice. -/
theorem ofText_hex_azure : (lowercase (strip " #0AF ")).toList = '#' :: ['0', 'a', 'f'] ∧
    (∃ c, ofText " #0AF " = .ok c) ∧ ∀ c, ofText " #0AF " = .ok c → c.InRange ∧
      ∃ x, c.pack = .ok x ∧ x < 4294967296.0 ∧ (0.0 ≤ x ↔ c.InRange) := by
  have htext : (lowercase (strip " #0AF ")).toList = '#' :: ['0', 'a', 'f'] := by decide +kernel
  have hplain : ∀ d ∈ ['0', 'a', 'f'], Plain d := by
    intro d hd
    fin_cases hd <;> exact ⟨by decide, by decide, by decide, by decide⟩
  obtain ⟨-, -, hdigits, hrange⟩ := ofText_hex htext
  exact ⟨htext, (hdigits hplain).2.2 ⟨by decide, by simp [sixteenDigits]⟩,
    fun c hc => ⟨(hrange c hc).1 (by decide), (hrange c hc).2⟩⟩

/-- **A sign counts as a digit.** Three channels that are minus one each pack into minus one. -/
theorem ofText_minus_ones :
    (lowercase (strip "#-1-1-1")).toList = '#' :: ['-', '1', '-', '1', '-', '1'] ∧
      '-' ∉ sixteenDigits ∧ ∃ c, ofText "#-1-1-1" = .ok c ∧ c.red = -1 ∧
        ∃ x, c.pack = .ok x ∧ x < 0.0 := by
  have htext : (lowercase (strip "#-1-1-1")).toList = '#' :: ['-', '1', '-', '1', '-', '1'] := by
    decide +kernel
  have hbyte : toInt .nearest ((1.0 : Float) * 255.0) = .ok 255 := by decide +kernel
  have hpacked : packedInt { red := -1, green := -1, blue := -1 } 255 = -1 := by decide
  refine ⟨htext, by decide +kernel, { red := -1, green := -1, blue := -1 }, ?_, rfl,
    Float.ofInt (-1), ?_, by decide +kernel⟩
  · unfold ofText
    simp only [htext]
    rfl
  · refine (bind_of_ok hbyte _).trans ?_
    rw [hpacked]
    exact ofInt_ok (by decide)

end Color

end ValuedGraph
