import ValuedGraph.Proofs.Expr.Reading
import ValuedGraph.Proofs.HexColor
import ValuedGraph.Proofs.Mixing

/-!
# Texts that are no colors

A text that is no color is the author's mistake, and an expression with it is refused. There is one
exception: the numbers of a functional form become integers before they are brought into the range
of a channel, so an infinite one of the first three is a fault of range, unless NaN stands in front
of it. Alpha may be any number.

* `Color.Lists`, `Color.Writes`: **the numbers of a functional form.**
* `Color.FirstFault`, `Color.make_eq_error`: the first of the channels that is no integer.
* `Color.ofText_eq_numeric`: when a text fails because of its numbers.
* `Color.parse_color_text`: **a text, and an expression with it,** is a color, or refused, or out of
  range.
-/

namespace ValuedGraph

/-- **A list has results** if its members have, one by one. -/
theorem mapM_eq_some {α β : Type} {f : α → Option β} {l : List α} {bs : List β} :
    l.mapM f = some bs ↔ List.Forall₂ (fun a b => f a = some b) l bs := by
  induction l generalizing bs with
  | nil => simp [eq_comm]
  | cons a l ih =>
    simp only [List.mapM_cons, Option.bind_eq_bind, Option.bind_eq_some_iff, ih,
      List.forall₂_cons_left_iff]
    constructor
    · rintro ⟨b, hb, bs', hbs, h⟩
      exact ⟨b, bs', hb, hbs, (Option.some.inj h).symm⟩
    · rintro ⟨b, bs', hb, hbs, rfl⟩
      exact ⟨b, hb, bs', hbs, rfl⟩

/-- **What is wrong with the text itself.** Numbers that are out of range are not. -/
def ColorError.OfText : ColorError → Prop
  | .numeric fault => fault.ofValue = true
  | _ => True

namespace Color

variable {text : String} {numbers : List Float} {fault : NumericFault}

/-! ## Channels in order -/

/-- **The fault of the first number that is no integer,** all numbers in front of it being finite. -/
inductive FirstFault : List Float → NumericFault → Prop
  | here {x : Float} {rest : List Float} {fault : NumericFault} (h : NoInteger x fault) :
    FirstFault (x :: rest) fault
  | later {x : Float} {rest : List Float} {fault : NumericFault} (hx : x.isFinite = true)
    (h : FirstFault rest fault) : FirstFault (x :: rest) fault

theorem FirstFault.eq (h : FirstFault numbers fault) :
    fault = .nanToInteger ∨ fault = .infinityToInteger := by
  induction h with
  | here h => cases h <;> simp
  | later hx h ih => exact ih

/-- One more channel in front of the others. -/
theorem clampChannel_bind_eq_error {β : Type} {x : Float} {f : ℤ → Except NumericFault β}
    (h : ∀ n, f n = .error fault ↔ FirstFault numbers fault) :
    (clampChannel x >>= f) = .error fault ↔ FirstFault (x :: numbers) fault := by
  constructor
  · intro hfails
    cases hx : clampChannel x with
    | error fault' =>
      rw [bind_of_error hx] at hfails
      obtain rfl := Except.error.inj hfails
      exact .here (clampChannel_eq_error.1 hx)
    | ok n =>
      rw [bind_of_ok hx] at hfails
      exact .later (exists_clampChannel.1 ⟨n, hx⟩) ((h n).1 hfails)
  · intro hfault
    cases hfault with
    | here hx => exact bind_of_error (clampChannel_eq_error.2 hx) _
    | later hx hrest =>
      obtain ⟨n, hn⟩ := exists_clampChannel.2 hx
      rw [bind_of_ok hn]
      exact (h n).2 hrest

/-- **Channels fail in the order in which they stand,** and alpha does not fail. -/
theorem make_eq_error {r g b a : Float} :
    make r g b a = .error fault ↔ FirstFault [r, g, b] fault := by
  refine clampChannel_bind_eq_error fun red => ?_
  refine clampChannel_bind_eq_error fun green => ?_
  refine clampChannel_bind_eq_error fun blue => ?_
  exact ⟨nofun, nofun⟩

/-! ## Functional forms -/

/-- **The numbers of a list:** three or four, between commas, with blanks around them. -/
structure Lists (body : List Char) (numbers : List Float) : Prop where
  each : List.Forall₂ (fun part x => readDouble? (stripWhile isBlank part) = some x)
    (splitCommas body) numbers
  length : numbers.length = 3 ∨ numbers.length = 4

/-- **The numbers that a functional form writes** between its parentheses. -/
def Writes (text : String) (numbers : List Float) : Prop :=
  ∃ body, functionalBody? (lowercase (strip text)).toList = some body ∧ Lists body numbers

/-- Hexadecimal digits are no functional form. -/
theorem functionalBody_hex (digits : List Char) : functionalBody? ('#' :: digits) = none := by
  rfl

theorem mapError_eq_numeric {x : Except NumericFault Color} :
    x.mapError ColorError.numeric = .error (.numeric fault) ↔ x = .error fault := by
  cases x <;> simp [Except.mapError]

/-- The numbers of a list are a fault if the first channel that is not finite is one. -/
theorem ofBody_eq_numeric {body : List Char} : ofBody text body = .error (.numeric fault) ↔
    ∃ numbers, Lists body numbers ∧ FirstFault (numbers.take 3) fault := by
  unfold ofBody
  dsimp only
  constructor
  · intro h
    split at h
    · split at h
      · rename_i r g b hnumbers
        exact ⟨_, ⟨mapM_eq_some.1 hnumbers, .inl rfl⟩, make_eq_error.1 (mapError_eq_numeric.1 h)⟩
      · rename_i r g b a hnumbers
        exact ⟨_, ⟨mapM_eq_some.1 hnumbers, .inr rfl⟩, make_eq_error.1 (mapError_eq_numeric.1 h)⟩
      · cases h
    · cases h
  · rintro ⟨numbers, ⟨heach, hlength⟩, hfault⟩
    rw [if_pos (by simpa [heach.length_eq] using hlength), mapM_eq_some.2 heach]
    match numbers, hlength with
    | [r, g, b], _ => exact mapError_eq_numeric.2 (make_eq_error.2 hfault)
    | [r, g, b, a], _ => exact mapError_eq_numeric.2 (make_eq_error.2 hfault)

/-- **A text fails because of its numbers** if it is a functional form one of whose channels is not
finite. -/
theorem ofText_eq_numeric : ofText text = .error (.numeric fault) ↔
    ∃ numbers, Writes text numbers ∧ FirstFault (numbers.take 3) fault := by
  have hwrites : (∃ numbers, Writes text numbers ∧ FirstFault (numbers.take 3) fault) ↔
      ∃ body, functionalBody? (lowercase (strip text)).toList = some body ∧
        ofBody text body = .error (.numeric fault) := by
    simp only [ofBody_eq_numeric]
    constructor
    · rintro ⟨numbers, ⟨body, hbody, hnumbers⟩, hfault⟩
      exact ⟨body, hbody, numbers, hnumbers, hfault⟩
    · rintro ⟨body, hbody, numbers, hnumbers, hfault⟩
      exact ⟨numbers, ⟨body, hbody, hnumbers⟩, hfault⟩
  rw [hwrites]
  unfold ofText
  dsimp only
  -- hexadecimal digits, a functional form, or a name
  split
  · rename_i digits htext
    rw [htext, functionalBody_hex]
    refine ⟨fun h => ?_, nofun⟩
    cases ofHexDigits_error h
  · split
    · rename_i body hbody
      simp [hbody]
    · rename_i hbody
      rw [hbody]
      refine ⟨fun h => ?_, nofun⟩
      split at h
      · cases h
      · split at h <;> cases h

/-! ## Expressions -/

/-- An expression that is a color and nothing else. -/
def written (text : String) : Value := .object [("color", .text text)]

/-- How an expression refuses a text that is no color. The empty text is not even a name. -/
def refusal (text : String) (error : ColorError) : SyntaxError :=
  if text = "" then .notName "color" (.text text) else .badColor error

variable {path : String}

theorem ofText_empty : ofText "" = .error (.unknown "") := by
  have htext : lowercase (strip "") = "" := by decide +kernel
  unfold ofText
  simp only [htext]
  rfl

/-- Any other text than the empty one is read as a color. -/
theorem parse_written (htext : text ≠ "") : Expr.parse (written text) path =
    match ofText text with
    | .ok c =>
      match c.pack with
      | .ok packed => .ok (.colorLiteral text packed)
      | .error fault => .error (.numeric fault)
    | .error (.numeric fault) =>
      if fault.ofValue then .error (.malformed path (.badColor (.numeric fault)))
      else .error (.numeric fault)
    | .error error => .error (.malformed path (.badColor error)) := by
  let f : Form :=
    ⟨[("color", .text text)], Value.fieldReadings [("color", .text text)], path⟩
  have hname : f.name "color" = .ok text := if_neg htext
  have hmarkers : ["color"].filter (fun k => Expr.markers.contains k) = ["color"] := by
    decide +kernel
  have hform : Value.IsForm f.fields "color" [] := ⟨hmarkers, by simp [f]⟩
  have hparse : Expr.parse (written text) path = f.parse := by
    rw [Expr.parse, written, Value.reading]
  rw [hparse, Form.parse_of_isForm rfl hform]
  unfold Form.color
  rw [bind_of_ok hname]
  cases ofText text with
  | ok c =>
    dsimp only
    cases c.pack <;> rfl
  | error error => cases error <;> rfl

theorem parse_of_color {c : Color} {packed : Float} (hc : ofText text = .ok c)
    (hpacked : c.pack = .ok packed) :
    Expr.parse (written text) path = .ok (.colorLiteral text packed) := by
  have htext : text ≠ "" := by
    rintro rfl
    rw [ofText_empty] at hc
    cases hc
  simp only [parse_written htext, hc, hpacked]

/-- A text that is no color is refused where it stands. -/
theorem parse_of_refused {error : ColorError} (herror : ofText text = .error error)
    (h : error.OfText) :
    Expr.parse (written text) path = .error (.malformed path (refusal text error)) := by
  by_cases htext : text = ""
  · subst htext
    rfl
  · rw [parse_written htext, refusal, if_neg htext, herror]
    cases error with
    | numeric fault => exact if_pos h
    | _ => rfl

theorem parse_of_overflow (h : ofText text = .error (.numeric .infinityToInteger)) :
    Expr.parse (written text) path = .error (.numeric .infinityToInteger) := by
  have htext : text ≠ "" := by
    rintro rfl
    rw [ofText_empty] at h
    cases h
  rw [parse_written htext, h]
  rfl

/-- **A text is a color, or refused, or out of range;** and so is an expression with it. As a color,
it has a packed number. It is out of range if it is a functional form one of whose channels is
infinite, and those in front of it are finite; if one of its channels is NaN, and those in front of
it are finite, it is refused for that. No other number that a functional form contains is a fault,
and alpha never is. -/
theorem parse_color_text (text path : String) :
    ((∃ c packed, ofText text = .ok c ∧ c.pack = .ok packed ∧
        Expr.parse (written text) path = .ok (.colorLiteral text packed)) ∨
      (∃ error : ColorError, ofText text = .error error ∧ error.OfText ∧
        Expr.parse (written text) path = .error (.malformed path (refusal text error))) ∨
      (ofText text = .error (.numeric .infinityToInteger) ∧
        Expr.parse (written text) path = .error (.numeric .infinityToInteger))) ∧
    ∀ fault, ofText text = .error (.numeric fault) ↔
      ∃ numbers, Writes text numbers ∧ FirstFault (numbers.take 3) fault := by
  refine ⟨?_, fun fault => ofText_eq_numeric⟩
  cases hresult : ofText text with
  | ok c =>
    obtain ⟨packed, hpacked⟩ := exists_pack_of_ofText hresult
    exact .inl ⟨c, packed, rfl, hpacked, parse_of_color hresult hpacked⟩
  | error error =>
    by_cases h : error.OfText
    · exact .inr (.inl ⟨error, rfl, h, parse_of_refused hresult h⟩)
    · have hrange : error = .numeric .infinityToInteger := by
        cases error with
        | numeric fault =>
          obtain ⟨numbers, -, hfault⟩ := ofText_eq_numeric.1 hresult
          rcases hfault.eq with rfl | rfl
          · exact absurd rfl h
          · rfl
        | _ => exact absurd trivial h
      subst hrange
      exact .inr (.inr ⟨rfl, parse_of_overflow hresult⟩)

/-- **An infinite channel** is out of range, in the text and in an expression. -/
theorem parse_infinite_red_text : ofText "rgb(inf,0,0)" = .error (.numeric .infinityToInteger) ∧
    Expr.parse (written "rgb(inf,0,0)") "" = .error (.numeric .infinityToInteger) ∧
      ¬ ColorError.OfText (.numeric .infinityToInteger) := by
  have htext : (lowercase (strip "rgb(inf,0,0)")).toList =
      ['r', 'g', 'b', '(', 'i', 'n', 'f', ',', '0', ',', '0', ')'] := by decide +kernel
  have hfault : ofText "rgb(inf,0,0)" = .error (.numeric .infinityToInteger) := by
    unfold ofText
    simp only [htext]
    rfl
  exact ⟨hfault, parse_of_overflow hfault, nofun⟩

end Color

end ValuedGraph
