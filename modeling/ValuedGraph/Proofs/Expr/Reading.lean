import ValuedGraph.Proofs.Expr.Grammar

/-!
# Reading follows the grammar

A reader follows the grammar if it returns the expressions that a document spells, and no other
ones. Readers of forms do, where the readers of their fields do; so all of them do, by recursion on
the document.

* `Reader.Follows`, `Reading.Follows`, `Form.Follows`: **readers that follow the grammar.**
* `Form.name_ok`, `Form.word_ok`, `Form.optional_ok`, `Form.required_ok`: what a field gives.
* `Form.parse_ok`: **objects,** in all structured forms.
* `Value.reading_follows`, `Expr.parse_ok`: **all documents.**
* `Expr.parse_iff_spells`: what is accepted, and that it is well made.
-/

namespace ValuedGraph

open Value

namespace Vocabulary

variable {α : Type} [Vocabulary α] {a : α}

theorem word_of_ofWord? {s : String} (h : (ofWord? s : Option α) = some a) : word a = s := by
  simpa using List.find?_some h

/-- **A vocabulary whose words differ from each other,** so each one leads back to its member. -/
class Distinct (α : Type) [Vocabulary α] : Prop where
  ofWord?_word : ∀ a : α, ofWord? (word a) = some a

instance : Distinct Combiner := ⟨fun c => by cases c <;> rfl⟩

instance : Distinct UnaryOperator := ⟨fun op => by cases op <;> rfl⟩

instance : Distinct BinaryOperator := ⟨fun op => by cases op <;> rfl⟩

instance : Distinct Comparator := ⟨fun c => by cases c <;> rfl⟩

instance : Distinct LengthMode := ⟨fun mode => by cases mode <;> rfl⟩

instance : Distinct TagScope := ⟨fun scope => by cases scope <;> rfl⟩

end Vocabulary

/-- The items of a list. -/
def Value.items? : Value → Option (List Value)
  | list items => some items
  | _ => none

/-- **A reader that follows the grammar** for a document: at all places it returns what the document
spells, and nothing else. -/
def Reader.Follows (r : Reader) (v : Value) : Prop := ∀ path e, r path = .ok e ↔ v.Spells e

/-- A reading that follows the grammar, for the document and for its items if it is a list. -/
structure Reading.Follows (r : Reading) (v : Value) : Prop where
  expression : r.expression.Follows v
  items : Option.Rel (List.Forall₂ Reader.Follows) r.items v.items?

/-- **A form that follows the grammar** in each of its fields. -/
structure Form.Follows (f : Form) : Prop where
  reading : ∀ key, Option.Rel Reading.Follows (f.readings.lookup key) (f.fields.lookup key)

section Leaves

variable {v : Value} {x : Float}

/-- **The numbers of leaves** are those of the grammar. -/
theorem leafNumber_ok : v.leafNumber = .ok (some x) ↔ Numeral v x := by
  constructor
  · intro h
    cases v with
    | null =>
      obtain rfl : nullNumber = x := by simpa [leafNumber] using h
      exact .null
    | bool b =>
      obtain rfl : truth b = x := by simpa [leafNumber] using h
      exact .bool b
    | int n =>
      rw [leafNumber, map_eq_ok] at h
      obtain ⟨y, hy, h⟩ := h
      obtain rfl : y = x := by simpa using h
      exact .int hy
    | float y =>
      rw [leafNumber] at h
      split at h
      · cases h
      · rename_i hnan
        obtain rfl : y = x := by simpa using h
        exact .float (by simpa using hnan)
    | text | moment | list | object => cases h
  · intro h
    cases h with
    | null | bool => rfl
    | int h => rw [leafNumber, h, Except.map]
    | float h => simp only [leafNumber, h, Bool.false_eq_true, if_false]

theorem arrayFrom_ok {path : String} {i : ℕ} {items : List Value} {xs : List Float} :
    arrayFrom path i items = .ok xs ↔ List.Forall₂ Numeral items xs := by
  induction items generalizing i xs with
  | nil => simp [arrayFrom, eq_comm]
  | cons v rest ih =>
    rw [List.forall₂_cons_left_iff, arrayFrom]
    simp only [← leafNumber_ok]
    split
    · rename_i h
      simp [h]
    · rename_i h
      simp [h]
    · rename_i x h
      simp only [map_eq_ok, ih, h, Except.ok.injEq, Option.some.injEq]
      grind

theorem readArray_follows (items : List Value) : (readArray items).Follows (.list items) := by
  intro path e
  rw [readArray]
  constructor
  · intro h
    split at h
    · cases h
    · rename_i hne
      obtain ⟨xs, hxs, rfl⟩ := map_eq_ok.1 h
      exact .numbers (by simpa using hne) (arrayFrom_ok.1 hxs)
  · intro h
    cases h with
    | number h => cases h
    | numbers hne h => rw [if_neg (by simpa using hne), arrayFrom_ok.2 h, Except.map]

theorem readLeaf_follows (v : Value) (hlist : ∀ items, v ≠ .list items)
    (hobject : ∀ fields, v ≠ .object fields) : (readLeaf v).Follows v := by
  intro path e
  unfold readLeaf
  constructor
  · intro h
    split at h
    · cases h
    · rename_i x hx
      obtain rfl := Except.ok.inj h
      exact .number (leafNumber_ok.1 hx)
    · split at h
      · split at h
        · rename_i htext
          obtain rfl := Except.ok.inj h
          exact htext ▸ .input
        · cases h
      · cases h
  · intro h
    cases h with
    | number h => rw [leafNumber_ok.2 h]
    | input => rfl
    | numbers => exact absurd rfl (hlist _)
    | _ => exact absurd rfl (hobject _)

end Leaves

namespace Form

variable {f : Form} {key : String} {e : Expr}

/-! ## Fields without an expression -/

theorem value_eq_text {s : String} :
    f.value key = .text s ↔ f.fields.lookup key = some (.text s) := by
  unfold Form.value
  cases f.fields.lookup key <;> simp

theorem lookup_items_iff {items : List Value} :
    (f.fields.lookup key).bind Value.items? = some items ↔
      f.fields.lookup key = some (.list items) := by
  cases f.fields.lookup key with
  | none => simp
  | some v => cases v <;> simp [Value.items?]

theorem has_eq : f.has key = (f.fields.lookup key).isSome := by
  unfold Form.has hasField
  rw [Bool.eq_iff_iff, List.any_eq_true, Option.isSome_iff_ne_none, Ne, List.lookup_eq_none_iff]
  grind

theorem name_ok {s : String} : f.name key = .ok s ↔ HasName f.fields key s := by
  rw [HasName, ← value_eq_text]
  unfold Form.name
  constructor
  · intro h
    split at h
    · rename_i s hvalue
      split at h
      · cases h
      · rename_i hne
        obtain rfl := Except.ok.inj h
        exact ⟨hvalue, hne⟩
    · cases h
  · rintro ⟨h, hne⟩
    simp [h, hne]

/-- **A word of a vocabulary** whose words differ from each other. -/
theorem word_ok {α : Type} [Vocabulary α] [Vocabulary.Distinct α] {what : String} {a : α} :
    f.word α key what = .ok a ↔ HasWord f.fields key a := by
  rw [HasWord, ← value_eq_text]
  unfold Form.word
  constructor
  · intro h
    split at h
    · rename_i b hvalue
      obtain rfl := Except.ok.inj h
      unfold Vocabulary.ofValue? at hvalue
      split at hvalue
      · rename_i s hs
        rw [hs, Vocabulary.word_of_ofWord? hvalue]
      · cases hvalue
    · cases h
  · intro h
    simp [h, Vocabulary.ofValue?, Vocabulary.Distinct.ofWord?_word]

theorem scope_ok {scope : TagScope} : f.scope = .ok scope ↔ HasScope f.fields scope := by
  unfold Form.scope HasScope
  rw [has_eq]
  cases hfield : f.fields.lookup "which" with
  | none => simp [HasWord, hfield, eq_comm]
  | some v =>
    rw [Option.isSome_some, if_pos rfl, word_ok]
    simp

theorem label_ok {label : String} : f.label = .ok label ↔ HasLabel f.fields label := by
  unfold Form.label HasLabel
  rw [has_eq]
  cases hfield : f.fields.lookup "label" with
  | none => simp [eq_comm]
  | some v =>
    rw [Option.isSome_some, if_pos rfl, Form.value, hfield]
    cases v <;> simp [Form.refuse]

theorem color_ok : f.color = .ok e ↔ ∃ text c packed, HasName f.fields "color" text ∧
    Color.ofText text = .ok c ∧ c.pack = .ok packed ∧ .colorLiteral text packed = e := by
  unfold Form.color
  simp only [bind_eq_ok, name_ok, exists_and_left]
  refine exists_congr fun text => and_congr_right fun _ => ?_
  split
  · rename_i c hc
    rw [hc]
    split
    · rename_i packed hpacked
      simp only [hpacked, pure_eq_ok, Except.ok.injEq, exists_eq_left']
    · rename_i fault hpacked
      simp [hpacked]
  · rename_i fault hc
    rw [hc]
    split <;> simp [Form.refuse]
  · rename_i error _ hc
    simp [hc, Form.refuse]

/-! ## Fields with expressions -/

/-- A field holds what spells an expression, or is absent if there is none. -/
abbrev Holds (f : Form) (key : String) (o : Option Expr) : Prop :=
  Option.Rel Spells (f.fields.lookup key) o

theorem each_ok {rs : List Reader} {items : List Value} (hrs : List.Forall₂ Reader.Follows rs items)
    {es : List Expr} : f.each key rs = .ok es ↔ List.Forall₂ Spells items es := by
  unfold Form.each
  -- what items spell does not depend on where they stand, so they are numbered from any index on
  generalize 0 = i
  induction hrs generalizing i es with
  | nil => cases es <;> simp [Pure.pure, Except.pure]
  | cons hr _ ih =>
    rw [List.zipIdx_cons, List.mapM_cons, List.forall₂_cons_left_iff]
    simp only [bind_eq_ok, pure_eq_ok, ih, hr _ _, exists_and_left]
    simp only [eq_comm]

section Follows

variable (h : f.Follows)
include h

/-- A field and its reading are absent together, or the reading follows the grammar. -/
theorem Follows.lookup (key : String) :
    (f.readings.lookup key = none ∧ f.fields.lookup key = none) ∨
      ∃ r v, f.readings.lookup key = some r ∧ f.fields.lookup key = some v ∧ r.Follows v := by
  have hreading := h.reading key
  generalize f.readings.lookup key = reading at hreading ⊢
  generalize f.fields.lookup key = field at hreading ⊢
  cases hreading with
  | none => exact .inl ⟨rfl, rfl⟩
  | some h => exact .inr ⟨_, _, rfl, rfl, h⟩

theorem optional_ok {o : Option Expr} : f.optional key = .ok o ↔ f.Holds key o := by
  unfold Form.optional Form.Holds
  obtain ⟨hr, hv⟩ | ⟨r, v, hr, hv, hfollows⟩ := h.lookup key
  · rw [hr, hv]
    cases o <;> simp
  · rw [hr, hv]
    simp only [map_eq_ok, hfollows.expression _ _]
    cases o <;> simp

theorem required_ok : f.required key = .ok e ↔ f.Holds key (some e) := by
  unfold Form.required Form.Holds
  obtain ⟨hr, hv⟩ | ⟨r, v, hr, hv, hfollows⟩ := h.lookup key
  · rw [hr, hv]
    simp [Form.refuse]
  · rw [hr, hv]
    simp [hfollows.expression _ _]

/-- The readers of the items of a field, where it is a list. -/
theorem Follows.items (key : String) : Option.Rel (List.Forall₂ Reader.Follows)
    ((f.readings.lookup key).bind Reading.items) ((f.fields.lookup key).bind Value.items?) := by
  obtain ⟨hr, hv⟩ | ⟨r, v, hr, hv, hfollows⟩ := h.lookup key
  · rw [hr, hv]
    exact .none
  · rw [hr, hv]
    exact hfollows.items

/-! ## The forms with a reader of their own -/

theorem three_ok {build : Expr → Expr → Expr → Expr} {a b c : String} :
    f.three build a b c = .ok e ↔ ∃ x, f.Holds a (some x) ∧ ∃ y, f.Holds b (some y) ∧
      ∃ z, f.Holds c (some z) ∧ build x y z = e := by
  simp only [Form.three, bind_eq_ok, required_ok h, pure_eq_ok]

/-- **Operators.** No word is one of both vocabularies, so it does not matter which of them is tried
first. -/
theorem operator_ok : f.operator = .ok e ↔
    (∃ op : UnaryOperator, HasWord f.fields "operator" op ∧ f.fields.lookup "b" = none ∧
      ∃ a, f.Holds "a" (some a) ∧ .unary op a = e) ∨
    ∃ op : BinaryOperator, HasWord f.fields "operator" op ∧ ∃ a, f.Holds "a" (some a) ∧
      ∃ b, f.Holds "b" (some b) ∧ .arithmetic op a b = e := by
  have hdisjoint : ∀ op : BinaryOperator,
      (Vocabulary.ofWord? (Vocabulary.word op) : Option UnaryOperator) = none := by
    intro op
    cases op <;> rfl
  simp only [HasWord, ← value_eq_text]
  unfold Form.operator
  constructor
  · intro hok
    split at hok
    · rename_i s hs
      split at hok
      · rename_i op hop
        obtain ⟨hb, hok⟩ := ok_of_guard hok
        rw [has_eq, Bool.not_eq_true, Option.isSome_eq_false_iff, Option.isNone_iff_eq_none] at hb
        simp only [bind_eq_ok, required_ok h, pure_eq_ok] at hok
        exact .inl ⟨op, by rw [hs, Vocabulary.word_of_ofWord? hop], hb, hok⟩
      · split at hok
        · rename_i op hop
          simp only [bind_eq_ok, required_ok h, pure_eq_ok] at hok
          exact .inr ⟨op, by rw [hs, Vocabulary.word_of_ofWord? hop], hok⟩
        · cases hok
    · cases hok
  · rintro (⟨op, hop, hb, hok⟩ | ⟨op, hop, hok⟩)
    · simp only [hop, Vocabulary.Distinct.ofWord?_word, has_eq, hb, Option.isSome_none, Bool.false_eq_true, if_false,
        bind_eq_ok, required_ok h, pure_eq_ok]
      exact hok
    · simp only [hop, hdisjoint, Vocabulary.Distinct.ofWord?_word, bind_eq_ok, required_ok h,
        pure_eq_ok]
      exact hok

theorem clip_ok : f.clip = .ok e ↔ ∃ value, f.Holds "clip" (some value) ∧ ∃ low, f.Holds "low" low ∧
    ∃ high, f.Holds "high" high ∧ (low ≠ none ∨ high ≠ none) ∧ .clip value low high = e := by
  -- a bound is there if its field is, since the field spells it
  have hbounds : ∀ {low high : Option Expr}, f.Holds "low" low → f.Holds "high" high →
      (¬ (!f.has "low" && !f.has "high") = true ↔ low ≠ none ∨ high ≠ none) := by
    intro low high hlow hhigh
    unfold Form.Holds at hlow hhigh
    rw [has_eq, has_eq]
    generalize f.fields.lookup "low" = l at hlow ⊢
    generalize f.fields.lookup "high" = r at hhigh ⊢
    cases hlow <;> cases hhigh <;> simp
  unfold Form.clip
  refine guard_eq_ok.trans ?_
  simp only [bind_eq_ok, required_ok h, optional_ok h, pure_eq_ok]
  constructor
  · rintro ⟨hguard, value, hvalue, low, hlow, high, hhigh, he⟩
    exact ⟨value, hvalue, low, hlow, high, hhigh, (hbounds hlow hhigh).1 hguard, he⟩
  · rintro ⟨value, hvalue, low, hlow, high, hhigh, hne, he⟩
    exact ⟨(hbounds hlow hhigh).2 hne, value, hvalue, low, hlow, high, hhigh, he⟩

theorem collection_ok : f.collection = .ok e ↔
    ∃ items, f.fields.lookup "collect" = some (.list items) ∧ items ≠ [] ∧
      ∃ es, List.Forall₂ Spells items es ∧ .collect es = e := by
  have hitems := h.items "collect"
  simp only [← lookup_items_iff]
  unfold Form.collection
  generalize (f.readings.lookup "collect").bind Reading.items = readers at hitems ⊢
  generalize (f.fields.lookup "collect").bind Value.items? = field at hitems ⊢
  cases hitems with
  | none => simp [Form.refuse]
  | @some rs items hrs =>
    have hempty : ¬ rs.isEmpty = true ↔ items ≠ [] := by cases hrs <;> simp
    refine guard_eq_ok.trans ?_
    simp only [hempty, bind_eq_ok, each_ok hrs, pure_eq_ok, Option.some.injEq, exists_eq_left']

theorem channels_ok : f.channels = .ok e ↔
    ∃ r g b, f.fields.lookup "rgb" = some (.list [r, g, b]) ∧ ∃ red, Spells r red ∧
      ∃ green, Spells g green ∧ ∃ blue, Spells b blue ∧
      ∃ alpha, f.Holds "alpha" alpha ∧ .colorRGB red green blue alpha = e := by
  have hitems := h.items "rgb"
  simp only [← lookup_items_iff]
  unfold Form.channels
  generalize (f.readings.lookup "rgb").bind Reading.items = readers at hitems ⊢
  generalize (f.fields.lookup "rgb").bind Value.items? = field at hitems ⊢
  cases hitems with
  | none => simp [Form.refuse]
  | @some rs items hrs =>
    refine guard_eq_ok.trans ?_
    simp only [Option.some.injEq, not_not, hrs.length_eq]
    constructor
    · rintro ⟨hlength, hok⟩
      obtain ⟨r, g, b, rfl⟩ := List.length_eq_three.1 hlength
      obtain ⟨channels, hchannels, hok⟩ := ok_of_bind hok
      rw [each_ok hrs] at hchannels
      obtain _ | ⟨hred, _ | ⟨hgreen, _ | ⟨hblue, _ | _⟩⟩⟩ := hchannels
      simp only [bind_eq_ok, optional_ok h, pure_eq_ok] at hok
      exact ⟨r, g, b, rfl, _, hred, _, hgreen, _, hblue, hok⟩
    · rintro ⟨r, g, b, rfl, red, hred, green, hgreen, blue, hblue, hok⟩
      have hchannels : f.each "rgb" rs = .ok [red, green, blue] :=
        (each_ok hrs).2 (.cons hred (.cons hgreen (.cons hblue .nil)))
      refine ⟨rfl, (bind_of_ok hchannels _).trans ?_⟩
      simpa only [bind_eq_ok, optional_ok h, pure_eq_ok] using hok

end Follows

/-! ## Objects -/

/-- **An object in a form** is read as this form. -/
theorem parse_of_isForm {marker : String} {others : List String}
    {build : Form → Except ParseFailure Expr}
    (hform : Expr.forms.lookup marker = some (others, build))
    (h : IsForm f.fields marker others) : f.parse = build f := by
  have hstray :
      (f.fields.map Prod.fst).filter (fun k => k != marker && !others.contains k) = [] := by
    rw [List.filter_eq_nil_iff]
    intro k hk
    rcases h.fields k hk with rfl | hk <;> simp_all
  unfold Form.parse
  simp only [h.markers, hform, hstray]

/-- **An object that can be read** is in one of the forms. -/
theorem isForm_of_parse (h : f.parse = .ok e) :
    ∃ form ∈ Expr.forms, IsForm f.fields form.1 form.2.1 ∧ form.2.2 f = .ok e := by
  unfold Form.parse at h
  dsimp only at h
  split at h
  · cases h
  · rename_i marker hmarkers
    split at h
    · rename_i others build hform
      split at h
      · rename_i hstray
        obtain ⟨before, after, hforms, -⟩ := List.lookup_eq_some_iff.1 hform
        refine ⟨(marker, others, build), hforms ▸ by simp, ⟨hmarkers, fun k hk => ?_⟩, h⟩
        have hk := List.filter_eq_nil_iff.1 hstray k hk
        by_cases hmarker : k = marker
        · exact .inl hmarker
        · exact .inr (by simpa [hmarker] using hk)
      · cases h
    · cases h
  · cases h

end Form

open Form in
/-- **Each form reads what it spells.** -/
theorem Expr.spells_forms {f : Form} (h : f.Follows) {e : Expr} : ∀ form ∈ Expr.forms,
    IsForm f.fields form.1 form.2.1 → form.2.2 f = .ok e → Spells (.object f.fields) e := by
  have hthree : ∀ {build : Expr → Expr → Expr → Expr} {a b c : String},
      (∀ x y z, f.Holds a (some x) → f.Holds b (some y) → f.Holds c (some z) →
        Spells (.object f.fields) (build x y z)) →
      f.three build a b c = .ok e → Spells (.object f.fields) e := by
    intro build a b c hbuild hok
    obtain ⟨x, hx, y, hy, z, hz, rfl⟩ := (three_ok h).1 hok
    exact hbuild x y z hx hy hz
  simp only [Expr.forms, List.forall_mem_cons, List.not_mem_nil, false_implies, implies_true,
    and_true, bind_eq_ok, pure_eq_ok, name_ok, required_ok h, optional_ok h, scope_ok, label_ok]
  -- one case for each form, in the order of the table
  refine ⟨?_, ?_, ?_, ?_, ?_, ?_, ?_, ?_, ?_, ?_, ?_, ?_, ?_, ?_, ?_, ?_, ?_, ?_, ?_, ?_, ?_, ?_⟩
  · rintro hform ⟨name, hname, rfl⟩
    exact .edgeConstant hform hname
  · rintro hform ⟨name, hname, rfl⟩
    exact .parentValue hform hname
  · rintro hform ⟨name, hname, rfl⟩
    exact .rootValue hform hname
  · rintro hform ⟨name, hname, rfl⟩
    exact .resultValue hform hname
  · rintro hform ⟨c, hword, value, hvalue, rfl⟩
    exact .combine hform (word_ok.1 hword) hvalue
  · rintro hform hok
    obtain ⟨text, c, packed, hname, hc, hpacked, rfl⟩ := color_ok.1 hok
    exact .colorLiteral hform hname hc hpacked
  · rintro hform hok
    obtain ⟨r, g, b, hrgb, red, hred, green, hgreen, blue, hblue, alpha, halpha, rfl⟩ :=
      (channels_ok h).1 hok
    exact .colorRGB hform hrgb hred hgreen hblue halpha
  · exact fun hform => hthree fun _ _ _ => .gradient hform
  · rintro hform hok
    obtain ⟨op, hop, hb, a, ha, rfl⟩ | ⟨op, hop, a, ha, b, hb, rfl⟩ := (operator_ok h).1 hok
    · exact .unary hform hop ha hb
    · exact .arithmetic hform hop ha hb
  · rintro hform ⟨c, hword, a, ha, b, hb, rfl⟩
    exact .compare hform (word_ok.1 hword) ha hb
  · exact fun hform => hthree fun _ _ _ => .choose hform
  · rintro hform ⟨condition, hcondition, value, hvalue, default, hdefault, rfl⟩
    exact .filter hform hcondition hvalue hdefault
  · rintro hform hok
    obtain ⟨value, hvalue, low, hlow, high, hhigh, hbounds, rfl⟩ := (clip_ok h).1 hok
    exact .clip hform hbounds hvalue hlow hhigh
  · exact fun hform => hthree fun _ _ _ => .rangeNormalize hform
  · exact fun hform => hthree fun _ _ _ => .percentDenormalize hform
  · rintro hform hok
    obtain ⟨items, hitems, hne, es, hes, rfl⟩ := (collection_ok h).1 hok
    exact .collect hform hitems hne hes
  · rintro hform ⟨mode, hword, value, hvalue, rfl⟩
    exact .lengthOf hform (word_ok.1 hword) hvalue
  · rintro hform ⟨tag, hname, scope, hscope, rfl⟩
    exact .hasTag hform hname hscope
  · rintro hform ⟨name, hname, scope, hscope, default, hdefault, rfl⟩
    exact .tagConstant hform hname hscope hdefault
  · rintro hform ⟨name, hname, value, hvalue, block, hblock, rfl⟩
    exact .bind hform hname hvalue hblock
  · rintro hform ⟨name, hname, rfl⟩
    exact .var hform hname
  · rintro hform ⟨label, hlabel, value, hvalue, rfl⟩
    exact .log hform hlabel hvalue

open Form in
/-- **Each rule of the grammar is read,** by the form of its marker. -/
theorem Form.parse_of_spells {f : Form} (h : f.Follows) {e : Expr}
    (he : Spells (.object f.fields) e) : f.parse = .ok e := by
  have hname : ∀ {key name} (build : String → Expr), HasName f.fields key name →
      (do return build (← f.name key)) = .ok (build name) :=
    fun _ hname => bind_of_ok (name_ok.2 hname) _
  -- the form of a marker is found by running through the table, so `rfl` says which one it is
  cases he with
  | number hnumber => cases hnumber
  | edgeConstant hform hfield => exact (parse_of_isForm rfl hform).trans (hname _ hfield)
  | parentValue hform hfield => exact (parse_of_isForm rfl hform).trans (hname _ hfield)
  | rootValue hform hfield => exact (parse_of_isForm rfl hform).trans (hname _ hfield)
  | resultValue hform hfield => exact (parse_of_isForm rfl hform).trans (hname _ hfield)
  | var hform hfield => exact (parse_of_isForm rfl hform).trans (hname _ hfield)
  | combine hform hword hvalue =>
    rw [parse_of_isForm rfl hform, bind_of_ok (word_ok.2 hword)]
    exact bind_of_ok ((required_ok h).2 hvalue) _
  | colorLiteral hform hname hcolor hpacked =>
    rw [parse_of_isForm rfl hform]
    exact color_ok.2 ⟨_, _, _, hname, hcolor, hpacked, rfl⟩
  | colorRGB hform hrgb hred hgreen hblue halpha =>
    rw [parse_of_isForm rfl hform]
    exact (channels_ok h).2
      ⟨_, _, _, hrgb, _, hred, _, hgreen, _, hblue, _, halpha, rfl⟩
  | gradient hform ha hb hc =>
    rw [parse_of_isForm rfl hform]
    exact (three_ok h).2 ⟨_, ha, _, hb, _, hc, rfl⟩
  | choose hform ha hb hc =>
    rw [parse_of_isForm rfl hform]
    exact (three_ok h).2 ⟨_, ha, _, hb, _, hc, rfl⟩
  | rangeNormalize hform ha hb hc =>
    rw [parse_of_isForm rfl hform]
    exact (three_ok h).2 ⟨_, ha, _, hb, _, hc, rfl⟩
  | percentDenormalize hform ha hb hc =>
    rw [parse_of_isForm rfl hform]
    exact (three_ok h).2 ⟨_, ha, _, hb, _, hc, rfl⟩
  | unary hform hword ha hb =>
    rw [parse_of_isForm rfl hform]
    exact (operator_ok h).2 (.inl ⟨_, hword, hb, _, ha, rfl⟩)
  | arithmetic hform hword ha hb =>
    rw [parse_of_isForm rfl hform]
    exact (operator_ok h).2 (.inr ⟨_, hword, _, ha, _, hb, rfl⟩)
  | compare hform hword ha hb =>
    rw [parse_of_isForm rfl hform, bind_of_ok (word_ok.2 hword),
      bind_of_ok ((required_ok h).2 ha)]
    exact bind_of_ok ((required_ok h).2 hb) _
  | filter hform hcondition hvalue hdefault =>
    rw [parse_of_isForm rfl hform, bind_of_ok ((required_ok h).2 hcondition),
      bind_of_ok ((required_ok h).2 hvalue)]
    exact bind_of_ok ((optional_ok h).2 hdefault) _
  | clip hform hbounds hvalue hlow hhigh =>
    rw [parse_of_isForm rfl hform]
    exact (clip_ok h).2 ⟨_, hvalue, _, hlow, _, hhigh, hbounds, rfl⟩
  | collect hform hitems hne hes =>
    rw [parse_of_isForm rfl hform]
    exact (collection_ok h).2 ⟨_, hitems, hne, _, hes, rfl⟩
  | lengthOf hform hword hvalue =>
    rw [parse_of_isForm rfl hform, bind_of_ok (word_ok.2 hword)]
    exact bind_of_ok ((required_ok h).2 hvalue) _
  | hasTag hform hfield hscope =>
    rw [parse_of_isForm rfl hform, bind_of_ok (name_ok.2 hfield)]
    exact bind_of_ok (scope_ok.2 hscope) _
  | tagConstant hform hfield hscope hdefault =>
    rw [parse_of_isForm rfl hform, bind_of_ok (name_ok.2 hfield), bind_of_ok (scope_ok.2 hscope)]
    exact bind_of_ok ((optional_ok h).2 hdefault) _
  | bind hform hfield hvalue hblock =>
    rw [parse_of_isForm rfl hform, bind_of_ok (name_ok.2 hfield),
      bind_of_ok ((required_ok h).2 hvalue)]
    exact bind_of_ok ((required_ok h).2 hblock) _
  | log hform hlabel hvalue =>
    rw [parse_of_isForm rfl hform, bind_of_ok (label_ok.2 hlabel)]
    exact bind_of_ok ((required_ok h).2 hvalue) _

/-- **Objects follow the grammar** if their fields do. -/
theorem Form.parse_ok {f : Form} (h : f.Follows) {e : Expr} :
    f.parse = .ok e ↔ Spells (.object f.fields) e := by
  refine ⟨fun hok => ?_, parse_of_spells h⟩
  obtain ⟨form, hmem, hform, hbuild⟩ := isForm_of_parse hok
  exact Expr.spells_forms h form hmem hform hbuild

namespace Value

mutual

/-- **All documents follow the grammar.** -/
theorem reading_follows : ∀ v : Value, v.reading.Follows v
  | .list items => ⟨readArray_follows items, .some (itemReaders_follow items)⟩
  | .object fields =>
    ⟨fun _ _ => Form.parse_ok ⟨fun key => fieldReadings_follow key fields⟩, .none⟩
  | .null => ⟨readLeaf_follows .null nofun nofun, .none⟩
  | .bool b => ⟨readLeaf_follows (.bool b) nofun nofun, .none⟩
  | .int n => ⟨readLeaf_follows (.int n) nofun nofun, .none⟩
  | .float x => ⟨readLeaf_follows (.float x) nofun nofun, .none⟩
  | .text s => ⟨readLeaf_follows (.text s) nofun nofun, .none⟩
  | .moment m => ⟨readLeaf_follows (.moment m) nofun nofun, .none⟩

theorem itemReaders_follow : ∀ items : List Value,
    List.Forall₂ Reader.Follows (itemReaders items) items
  | [] => .nil
  | v :: rest => .cons (reading_follows v).expression (itemReaders_follow rest)

theorem fieldReadings_follow (key : String) : ∀ fields : List (String × Value),
    Option.Rel Reading.Follows ((fieldReadings fields).lookup key) (fields.lookup key)
  | [] => .none
  | (k, v) :: rest => by
    rw [fieldReadings, List.lookup_cons, List.lookup_cons]
    split
    · exact .some (reading_follows v)
    · exact fieldReadings_follow key rest

end

end Value

namespace Expr

/-- **A document is read as the expression that it spells.** -/
theorem parse_ok {v : Value} {path : String} {e : Expr} : parse v path = .ok e ↔ v.Spells e :=
  v.reading_follows.expression path e

/-- **Exactly the documents of the grammar are read,** each as the expression that it spells, and
all sub-expressions are well made. A color that can be read never fails to have a number. -/
theorem parse_iff_spells (v : Value) (path : String) :
    (∀ e, parse v path = .ok e ↔ v.Spells e) ∧
      (∀ e, parse v path = .ok e → ∀ x ∈ e.walk, x.WellMade) ∧
      ∀ text c, Color.ofText text = .ok c → ∃ packed, c.pack = .ok packed :=
  ⟨fun _ => parse_ok, fun _ h => (parse_ok.1 h).forall_wellMade,
    fun _ _ => Color.exists_pack_of_ofText⟩

/-- The input below a bound is read and well made, and an orange has a number. -/
theorem parse_iff_spells_clip :
    (∃ e, Spells (.object [("clip", .text "input"), ("high", .null)]) e ∧
      ∀ x ∈ e.walk, x.WellMade) ∧
      ∃ c, Color.ofText "#ff8000" = .ok c ∧ ∃ packed, c.pack = .ok packed := by
  obtain ⟨hread, hmade, hcolor⟩ :=
    parse_iff_spells (.object [("clip", .text "input"), ("high", .null)]) "expr"
  have hparse : parse (.object [("clip", .text "input"), ("high", .null)]) "expr" =
      .ok (.clip .input none (some (.literal [nullNumber]))) := rfl
  have htext : Color.ofText "#ff8000" = .ok { red := 255, green := 128, blue := 0 } := rfl
  exact ⟨⟨_, (hread _).1 hparse, hmade _ hparse⟩, _, htext, hcolor _ _ htext⟩

end Expr

end ValuedGraph
