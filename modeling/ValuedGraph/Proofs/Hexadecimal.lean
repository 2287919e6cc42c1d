import ValuedGraph.Proofs.Color

/-!
# Two hexadecimal digits

A channel of a color is written with two characters, which are read as a hexadecimal number of
their own. Such a number may have a sign or a blank in the place of a digit, and the digits of all
scripts. Among plain characters of lower case, only two of the sixteen digits are a number.

* `PairWrites`, `readHex_pair`: **the numbers that two characters write,** in ASCII.
* `PairReads`, `readHex_two`: the numbers that two characters of any script write.
* `PairReads.nonneg`, `PairReads.bounds`: their signs and sizes.
* `not_isUpper_of_mem_lowercase`: **no capital is left in lower case.**
* `pairReads_iff`: **plain digits.**
-/

namespace ValuedGraph

/-! ## Pairs of digits -/

/-- **The numbers that two characters write:** two hexadecimal digits, or one next to a blank or
behind a sign. -/
inductive PairWrites : Char → Char → ℤ → Prop
  | digits {a b : Char} {m n : ℕ} (ha : hexValue? a = some m) (hb : hexValue? b = some n) :
    PairWrites a b (16 * m + n)
  | plus {b : Char} {n : ℕ} (hb : hexValue? b = some n) : PairWrites '+' b n
  | minus {b : Char} {n : ℕ} (hb : hexValue? b = some n) : PairWrites '-' b (-n)
  | blankBefore {a b : Char} {n : ℕ} (ha : isAsciiBlank a) (hb : hexValue? b = some n) :
    PairWrites a b n
  | blankAfter {a b : Char} {m : ℕ} (ha : hexValue? a = some m) (hb : isAsciiBlank b) :
    PairWrites a b m

variable {a b c : Char} {d m n : ℕ} {rest cs : List Char} {k : ℤ}

theorem hexValue_of_isAsciiBlank (h : isAsciiBlank c) : hexValue? c = none := by
  have hle (a b : Char) : a ≤ b ↔ a.toNat ≤ b.toNat := Iff.rfl
  have hsmall : c.toNat ≤ 0x20 := by
    simp only [isAsciiBlank, Bool.or_eq_true, beq_iff_eq, Bool.and_eq_true, decide_eq_true_eq] at h
    rcases h with rfl | h
    · decide
    · omega
  unfold hexValue?
  simp only [Bool.and_eq_true, decide_eq_true_eq, hle, Char.reduceToNat]
  rw [if_neg (by omega), if_neg (by omega), if_neg (by omega)]

theorem hexRun_digit {joined : Bool} (h : hexValue? c = some d) :
    hexRun n joined (c :: rest) = hexRun (16 * n + d) false rest := by
  have hc : c ≠ '_' := by
    rintro rfl
    cases h
  rw [hexRun]
  · rw [h]
  · exact hc

theorem hexRun_other (h : hexValue? c = none) (hc : c ≠ '_') :
    hexRun n false (c :: rest) = some (n, c :: rest) := by
  rw [hexRun]
  · rw [h]
    rfl
  · exact hc

/-- The number that digits write behind a sign. -/
def readUnsigned (negative : Bool) (cs : List Char) : Option ℤ :=
  match dropHexMark cs with
  | [] => none
  | c :: rest =>
    if (hexValue? c).isNone then none
    else
      match hexRun 0 false (c :: rest) with
      | some (n, rest) =>
        if rest.all isAsciiBlank then some (if negative then -(n : ℤ) else n) else none
      | none => none

theorem readHex_eq (cs : List Char) : readHex? cs =
    readUnsigned (takeSign ((asciiForm cs).dropWhile isAsciiBlank)).1
      (takeSign ((asciiForm cs).dropWhile isAsciiBlank)).2 := rfl

theorem takeSign_of_ne (hm : c ≠ '-') (hp : c ≠ '+') :
    takeSign (c :: rest) = (false, c :: rest) := by
  unfold takeSign
  split
  · rename_i h
    cases h
    exact absurd rfl hm
  · rename_i h
    cases h
    exact absurd rfl hp
  · rfl

/-- The number that one digit writes behind a sign. -/
def digitNumber (negative : Bool) (c : Char) : Option ℤ :=
  (hexValue? c).map fun n : ℕ => if negative then -(n : ℤ) else n

theorem readUnsigned_one (negative : Bool) (c : Char) :
    readUnsigned negative [c] = digitNumber negative c := by
  have hmark : dropHexMark [c] = [c] := by
    unfold dropHexMark
    split
    · rename_i h
      cases h
    · rfl
  rw [readUnsigned, hmark, digitNumber]
  cases hd : hexValue? c with
  | none => simp [hd]
  | some d => simp [hd, hexRun_digit hd, hexRun]

/-- A sign alone writes nothing. -/
theorem readUnsigned_takeSign_one (c : Char) :
    readUnsigned (takeSign [c]).1 (takeSign [c]).2 = digitNumber false c := by
  by_cases hm : c = '-'
  · subst hm
    rfl
  by_cases hp : c = '+'
  · subst hp
    rfl
  rw [takeSign_of_ne hm hp, readUnsigned_one]

theorem readUnsigned_other (hc : hexValue? c = none) : readUnsigned false (c :: rest) = none := by
  have hmark : dropHexMark (c :: rest) = c :: rest := by
    unfold dropHexMark
    split
    · rename_i h
      cases h
      cases hc
    · rfl
  rw [readUnsigned, hmark]
  simp [hc]

/-- A mark takes up both characters, and the second one is no digit. -/
theorem dropHexMark_two (a b : Char) : dropHexMark [a, b] = [a, b] ∨
    dropHexMark [a, b] = [] ∧ hexValue? b = none ∧ isAsciiBlank b = false := by
  unfold dropHexMark
  split
  · rename_i c rest h
    cases h
    split
    · rename_i hb
      refine Or.inr ⟨rfl, ?_⟩
      rcases (by simpa using hb : b = 'x' ∨ b = 'X') with rfl | rfl <;> exact ⟨rfl, rfl⟩
    · exact Or.inl rfl
  · exact Or.inl rfl

theorem readUnsigned_two (ha : hexValue? a = some m) : readUnsigned false [a, b] =
    match hexValue? b with
    | some n => some (16 * m + n : ℤ)
    | none => if isAsciiBlank b then some (m : ℤ) else none := by
  rcases dropHexMark_two a b with hmark | ⟨hmark, hb, hblank⟩
  · rw [readUnsigned, hmark]
    simp only [ha, Option.isNone_some, hexRun_digit ha]
    cases hb : hexValue? b with
    | some n => simp [hexRun_digit hb, hexRun]
    | none =>
      by_cases hc : b = '_'
      · subst hc
        rfl
      · simp [hexRun_other hb hc]
  · rw [readUnsigned, hmark, hb, hblank]
    rfl

theorem readHex_minus (h : asciiForm cs = ['-', b]) : readHex? cs = digitNumber true b := by
  rw [readHex_eq, h]
  exact readUnsigned_one true b

theorem readHex_plus (h : asciiForm cs = ['+', b]) : readHex? cs = digitNumber false b := by
  rw [readHex_eq, h]
  exact readUnsigned_one false b

theorem readHex_blank (h : asciiForm cs = [a, b]) (ha : isAsciiBlank a) :
    readHex? cs = digitNumber false b := by
  rw [readHex_eq, h, List.dropWhile_cons_of_pos ha]
  by_cases hb : isAsciiBlank b
  · rw [List.dropWhile_cons_of_pos hb, digitNumber, hexValue_of_isAsciiBlank hb]
    rfl
  · rw [List.dropWhile_cons_of_neg hb, readUnsigned_takeSign_one]

/-- Another first character is read as the first of the digits. -/
theorem readHex_plain (h : asciiForm cs = [a, b]) (ha : ¬ isAsciiBlank a) (hm : a ≠ '-')
    (hp : a ≠ '+') : readHex? cs = readUnsigned false [a, b] := by
  rw [readHex_eq, h, List.dropWhile_cons_of_neg ha, takeSign_of_ne hm hp]

theorem digitNumber_eq_some {negative : Bool} : digitNumber negative c = some k ↔
    ∃ n : ℕ, hexValue? c = some n ∧ k = if negative then -(n : ℤ) else n := by
  rw [digitNumber, Option.map_eq_some_iff]
  simp only [eq_comm]

/-- **Two characters** are read as the number that they write, in ASCII. -/
theorem readHex_pair (h : asciiForm cs = [a, b]) : readHex? cs = some k ↔ PairWrites a b k := by
  by_cases hblank : isAsciiBlank a
  · have hnone := hexValue_of_isAsciiBlank hblank
    rw [readHex_blank h hblank, digitNumber_eq_some]
    constructor
    · rintro ⟨n, hb, rfl⟩
      exact .blankBefore hblank hb
    · rintro (⟨ha, hb⟩ | hb | hb | ⟨ha, hb⟩ | ⟨ha, hb⟩)
      · cases hnone.symm.trans ha
      · exact ⟨_, hb, rfl⟩
      · cases hblank
      · exact ⟨_, hb, rfl⟩
      · cases hnone.symm.trans ha
  by_cases hm : a = '-'
  · subst hm
    rw [readHex_minus h, digitNumber_eq_some]
    constructor
    · rintro ⟨n, hb, rfl⟩
      exact .minus hb
    · rintro (⟨ha, hb⟩ | hb | hb | ⟨ha, hb⟩ | ⟨ha, hb⟩)
      · cases ha
      · exact ⟨_, hb, rfl⟩
      · cases ha
      · cases ha
  by_cases hp : a = '+'
  · subst hp
    rw [readHex_plus h, digitNumber_eq_some]
    constructor
    · rintro ⟨n, hb, rfl⟩
      exact .plus hb
    · rintro (⟨ha, hb⟩ | hb | hb | ⟨ha, hb⟩ | ⟨ha, hb⟩)
      · cases ha
      · exact ⟨_, hb, rfl⟩
      · cases ha
      · cases ha
  rw [readHex_plain h hblank hm hp]
  constructor
  · intro hread
    cases ha : hexValue? a with
    | none => cases (readUnsigned_other ha).symm.trans hread
    | some m =>
      rw [readUnsigned_two ha] at hread
      cases hb : hexValue? b with
      | some n =>
        rw [hb] at hread
        obtain rfl := Option.some.inj hread
        exact .digits ha hb
      | none =>
        rw [hb] at hread
        dsimp only at hread
        split_ifs at hread with hafter
        obtain rfl := Option.some.inj hread
        exact .blankAfter ha hafter
  · rintro (⟨ha, hb⟩ | hb | hb | ⟨ha, hb⟩ | ⟨ha, hb⟩)
    · rw [readUnsigned_two ha, hb]
    · exact absurd rfl hp
    · exact absurd rfl hm
    · exact absurd ha hblank
    · rw [readUnsigned_two ha, hexValue_of_isAsciiBlank hb]
      exact if_pos hb

/-! ## Characters -/

/-- **The numbers that two characters of any script write.** -/
def PairReads (a b : Char) (k : ℤ) : Prop := ∃ a' b', asciiForm [a, b] = [a', b'] ∧ PairWrites a' b' k

theorem readHex_two : readHex? [a, b] = some k ↔ PairReads a b k := by
  obtain ⟨a', b', hform⟩ : ∃ a' b', asciiForm [a, b] = [a', b'] := by
    unfold asciiForm
    split
    · exact ⟨a, b, rfl⟩
    · exact ⟨asciiChar a, asciiChar b, rfl⟩
  rw [readHex_pair hform]
  constructor
  · exact fun h => ⟨a', b', hform, h⟩
  · rintro ⟨a'', b'', hform', h⟩
    obtain ⟨rfl, rfl⟩ : a' = a'' ∧ b' = b'' := by simpa using hform.symm.trans hform'
    exact h

theorem asciiForm_of_ascii (ha : a.toNat < 128) (hb : b.toNat < 128) : asciiForm [a, b] = [a, b] := by
  simp [asciiForm, ha, hb]

theorem digitValue_lt (h : digitValue? c = some n) : n < 10 := by
  obtain ⟨first, hfind, rfl⟩ := Option.map_eq_some_iff.1 h
  have hrow := List.find?_some hfind
  simp only [Bool.and_eq_true, decide_eq_true_eq] at hrow
  omega

/-- No other character becomes a minus sign. -/
theorem eq_minus_of_asciiChar (h : asciiChar c = '-') : c = '-' := by
  unfold asciiChar at h
  split at h
  · exact h
  · split at h
    · cases h
    · split at h
      · rename_i n hn
        have hlt := digitValue_lt hn
        interval_cases n <;> cases h
      · cases h

/-- **Without a minus sign** no negative number is written. -/
theorem PairReads.nonneg (h : PairReads a b k) (ha : a ≠ '-') : 0 ≤ k := by
  obtain ⟨a', b', hform, hk⟩ := h
  have ha' : a' ≠ '-' := by
    rintro rfl
    unfold asciiForm at hform
    split at hform
    · exact ha (List.cons.inj hform).1
    · exact ha (eq_minus_of_asciiChar (List.cons.inj hform).1)
  cases hk with
  | minus hb => exact absurd rfl ha'
  | _ => omega

/-! ## Lower case -/

/-- Whether a character is a capital of ASCII. -/
def IsUpper (c : Char) : Prop := 0x41 ≤ c.toNat ∧ c.toNat ≤ 0x5a

theorem not_isUpper_ofNat {n : ℕ} (h : n < 0x41 ∨ 0x5a < n) : ¬ IsUpper (Char.ofNat n) := by
  unfold IsUpper
  by_cases hn : n.isValidChar
  · rw [Char.toNat_ofNat, if_pos hn]
    omega
  · rw [Char.toNat_ofNat, if_neg hn]
    omega

theorem lowercaseCode_not_upper (n : ℕ) : lowercaseCode n < 0x41 ∨ 0x5a < lowercaseCode n := by
  have hruns : ∀ r ∈ lowercaseRuns, 0x5a < (r.1 : ℤ) + r.2.2.2 := by decide +kernel
  unfold lowercaseCode
  split
  · rename_i first last step distance hfind
    have hmem := hruns _ (List.mem_of_find?_eq_some hfind)
    have hrun := List.find?_some hfind
    simp only [Bool.and_eq_true, decide_eq_true_eq] at hrun
    dsimp only at hmem
    omega
  · rename_i hfind
    have hcapitals := List.find?_eq_none.1 hfind (0x41, 0x5a, 1, 32) (by decide)
    simp [Nat.mod_one] at hcapitals
    omega

/-- **No capital is left in lower case.** -/
theorem not_isUpper_of_mem_lowercase {s : String} (h : c ∈ (lowercase s).toList) : ¬ IsUpper c := by
  have hchar (before : List Char) (d : Char) (after : List Char) :
      ∀ c ∈ lowercaseChar before d after, ¬ IsUpper c := by
    intro c hc
    unfold lowercaseChar at hc
    split_ifs at hc <;> simp only [List.mem_cons, List.not_mem_nil, or_false] at hc
    · obtain rfl := hc
      exact not_isUpper_ofNat (by decide)
    · obtain rfl := hc
      exact not_isUpper_ofNat (by decide)
    · rcases hc with rfl | rfl <;> exact not_isUpper_ofNat (by decide)
    · obtain rfl := hc
      exact not_isUpper_ofNat (lowercaseCode_not_upper _)
  have hfrom (cs : List Char) : ∀ before, ∀ c ∈ lowercaseFrom before cs, ¬ IsUpper c := by
    induction cs with
    | nil => simp [lowercaseFrom]
    | cons d after ih =>
      intro before c hc
      rcases List.mem_append.1 hc with hc | hc
      · exact hchar _ _ _ c hc
      · exact ih _ c hc
  rw [lowercase, String.toList_ofList] at h
  exact hfrom _ _ c h

/-! ## Plain digits -/

/-- The hexadecimal digits, each in the place that is its value. -/
def sixteenDigits : List Char :=
  ['0', '1', '2', '3', '4', '5', '6', '7', '8', '9', 'a', 'b', 'c', 'd', 'e', 'f']

/-- **The number of two hexadecimal digits.** -/
def DigitPair (a b : Char) (k : ℤ) : Prop :=
  ∃ m n : ℕ, sixteenDigits[m]? = some a ∧ sixteenDigits[n]? = some b ∧ k = 16 * m + n

/-- An ASCII character that is neither a sign nor a blank. -/
structure Plain (c : Char) : Prop where
  ascii : c.toNat < 128
  ne_minus : c ≠ '-'
  ne_plus : c ≠ '+'
  not_blank : ¬ isAsciiBlank c

/-- The value of a digit that is no capital is its place. -/
theorem hexValue_iff (hupper : ¬ IsUpper c) : hexValue? c = some n ↔ sixteenDigits[n]? = some c := by
  constructor
  · intro h
    have hle (a b : Char) : a ≤ b ↔ a.toNat ≤ b.toNat := Iff.rfl
    have hcode : c.toNat = n + 0x30 ∧ n < 10 ∨ c.toNat = n + 0x57 ∧ 10 ≤ n ∧ n < 16 := by
      unfold IsUpper at hupper
      unfold hexValue? at h
      simp only [Bool.and_eq_true, decide_eq_true_eq, hle, Char.reduceToNat] at h
      split_ifs at h <;> obtain rfl := Option.some.inj h <;> omega
    have hplaces : ∀ n < 16, sixteenDigits[n]? =
        some (Char.ofNat (if n < 10 then n + 0x30 else n + 0x57)) := by decide
    rw [hplaces n (by omega), ← Char.ofNat_toNat c]
    rcases hcode with ⟨hcode, hn⟩ | ⟨hcode, hn, -⟩
    · rw [hcode, if_pos hn]
    · rw [hcode, if_neg (by omega)]
  · have hvalues : ∀ n < 16, ∀ c, sixteenDigits[n]? = some c → hexValue? c = some n := by
      intro n hn c
      interval_cases n <;> rintro ⟨⟩ <;> rfl
    intro h
    have hn : n < sixteenDigits.length := (List.getElem?_eq_some_iff.1 h).1
    exact hvalues n hn c h

theorem pairReads_iff (ha : Plain a) (hb : Plain b) (ha' : ¬ IsUpper a) (hb' : ¬ IsUpper b) :
    PairReads a b k ↔ DigitPair a b k := by
  have hform := asciiForm_of_ascii ha.ascii hb.ascii
  constructor
  · rintro ⟨a', b', hform', h⟩
    obtain ⟨rfl, rfl⟩ : a = a' ∧ b = b' := by simpa using hform.symm.trans hform'
    cases h with
    | digits hm hn => exact ⟨_, _, (hexValue_iff ha').1 hm, (hexValue_iff hb').1 hn, rfl⟩
    | plus => exact absurd rfl ha.ne_plus
    | minus => exact absurd rfl ha.ne_minus
    | blankBefore hblank => exact absurd hblank ha.not_blank
    | blankAfter _ hblank => exact absurd hblank hb.not_blank
  · rintro ⟨m, n, hm, hn, rfl⟩
    exact ⟨a, b, hform, .digits ((hexValue_iff ha').2 hm) ((hexValue_iff hb').2 hn)⟩

/-- The numbers that two characters write have one hexadecimal digit with a sign, or two without. -/
theorem PairReads.bounds (h : PairReads a b k) : -16 < k ∧ k < 256 := by
  obtain ⟨a', b', -, hk⟩ := h
  cases hk with
  | digits ha hb =>
    have hlt := hexValue_lt ha
    have hlt' := hexValue_lt hb
    omega
  | plus hb | minus hb | blankBefore _ hb | blankAfter hb =>
    have hlt := hexValue_lt hb
    omega

end ValuedGraph
