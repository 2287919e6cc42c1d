import ValuedGraph.Expr.Parser
import ValuedGraph.Proofs.Color
import ValuedGraph.Proofs.Expr.Walk

/-!
# The grammar of expressions

Which documents are expressions, and of which expression, without a word on how they are read. A
leaf is a number; an array is a list of leaves; and a structured form is an object with one marker,
whose other fields are those that the form takes.

* `Value.Numeral`: **the leaves.**
* `Value.IsForm`: an object in a form.
* `Value.Spells`: **the grammar,** with one rule for each form.
* `Expr.WellMade`: what an expression of the grammar never has.
-/

namespace ValuedGraph

namespace Value

/-- **The leaves,** and their numbers. Null and booleans have reserved ones; an integer has to be in
the range of doubles; and NaN is no leaf. -/
inductive Numeral : Value → Float → Prop
  | null : Numeral .null nullNumber
  | bool (b : Bool) : Numeral (.bool b) (truth b)
  | int {n : Int} {x : Float} (h : ofInt n = .ok x) : Numeral (.int n) x
  | float {x : Float} (h : x.isNaN = false) : Numeral (.float x) x

variable (fields : List (String × Value)) (key : String)

/-- **An object in a form:** it has the form's marker once and no other one, and its other fields
are among those that the form takes. -/
structure IsForm (marker : String) (others : List String) : Prop where
  markers : ((fields.map Prod.fst).filter fun k => Expr.markers.contains k) = [marker]
  fields : ∀ k ∈ fields.map Prod.fst, k = marker ∨ k ∈ others

/-- A field that holds a name. -/
def HasName (name : String) : Prop := fields.lookup key = some (.text name) ∧ name ≠ ""

/-- A field that holds the word of a member of a vocabulary. -/
def HasWord {α : Type} [Vocabulary α] (a : α) : Prop :=
  fields.lookup key = some (.text (Vocabulary.word a))

/-- The scope of tags, which is all tags if it is not given. -/
def HasScope (scope : TagScope) : Prop :=
  HasWord fields "which" scope ∨ fields.lookup "which" = none ∧ scope = .all

/-- The label of a log, which is empty if it is not given. -/
def HasLabel (label : String) : Prop :=
  fields.lookup "label" = some (.text label) ∨ fields.lookup "label" = none ∧ label = ""

/-- **The grammar of expressions.** What a form needs has a field that spells it; what it may have
is there if the field is, and then the field spells it. -/
inductive Spells : Value → Expr → Prop
  | number {v x} (h : Numeral v x) : Spells v (.literal [x])
  | numbers {items xs} (hne : items ≠ []) (h : List.Forall₂ Numeral items xs) :
      Spells (.list items) (.literal xs)
  | input : Spells (.text "input") .input
  | edgeConstant {fields name} (h : IsForm fields "constant" [])
      (hname : HasName fields "constant" name) : Spells (.object fields) (.edgeConstant name)
  | parentValue {fields name} (h : IsForm fields "ref" []) (hname : HasName fields "ref" name) :
      Spells (.object fields) (.parentValue name)
  | rootValue {fields name} (h : IsForm fields "root" []) (hname : HasName fields "root" name) :
      Spells (.object fields) (.rootValue name)
  | resultValue {fields name} (h : IsForm fields "result" [])
      (hname : HasName fields "result" name) : Spells (.object fields) (.resultValue name)
  | combine {fields c value} (h : IsForm fields "combine" ["value"])
      (hword : HasWord fields "combine" (c : Combiner))
      (hvalue : Option.Rel Spells (fields.lookup "value") (some value)) :
      Spells (.object fields) (.combine c value)
  | colorLiteral {fields text c packed} (h : IsForm fields "color" [])
      (hname : HasName fields "color" text) (hcolor : Color.ofText text = .ok c)
      (hpacked : c.pack = .ok packed) : Spells (.object fields) (.colorLiteral text packed)
  | colorRGB {fields r g b red green blue alpha} (h : IsForm fields "rgb" ["alpha"])
      (hrgb : fields.lookup "rgb" = some (.list [r, g, b])) (hred : Spells r red)
      (hgreen : Spells g green) (hblue : Spells b blue)
      (halpha : Option.Rel Spells (fields.lookup "alpha") alpha) :
      Spells (.object fields) (.colorRGB red green blue alpha)
  | gradient {fields progress start stop} (h : IsForm fields "gradient" ["a", "b"])
      (hprogress : Option.Rel Spells (fields.lookup "gradient") (some progress))
      (hstart : Option.Rel Spells (fields.lookup "a") (some start))
      (hstop : Option.Rel Spells (fields.lookup "b") (some stop)) :
      Spells (.object fields) (.gradient progress start stop)
  | unary {fields op a} (h : IsForm fields "operator" ["a", "b"])
      (hword : HasWord fields "operator" (op : UnaryOperator))
      (ha : Option.Rel Spells (fields.lookup "a") (some a)) (hb : fields.lookup "b" = none) :
      Spells (.object fields) (.unary op a)
  | arithmetic {fields op a b} (h : IsForm fields "operator" ["a", "b"])
      (hword : HasWord fields "operator" (op : BinaryOperator))
      (ha : Option.Rel Spells (fields.lookup "a") (some a))
      (hb : Option.Rel Spells (fields.lookup "b") (some b)) :
      Spells (.object fields) (.arithmetic op a b)
  | compare {fields c a b} (h : IsForm fields "compare" ["a", "b"])
      (hword : HasWord fields "compare" (c : Comparator))
      (ha : Option.Rel Spells (fields.lookup "a") (some a))
      (hb : Option.Rel Spells (fields.lookup "b") (some b)) :
      Spells (.object fields) (.compare c a b)
  | choose {fields condition yes no} (h : IsForm fields "if" ["then", "else"])
      (hcondition : Option.Rel Spells (fields.lookup "if") (some condition))
      (hyes : Option.Rel Spells (fields.lookup "then") (some yes))
      (hno : Option.Rel Spells (fields.lookup "else") (some no)) :
      Spells (.object fields) (.choose condition yes no)
  | filter {fields condition value default} (h : IsForm fields "filter" ["value", "default"])
      (hcondition : Option.Rel Spells (fields.lookup "filter") (some condition))
      (hvalue : Option.Rel Spells (fields.lookup "value") (some value))
      (hdefault : Option.Rel Spells (fields.lookup "default") default) :
      Spells (.object fields) (.filter condition value default)
  | clip {fields value low high} (h : IsForm fields "clip" ["low", "high"])
      (hbounds : low ≠ none ∨ high ≠ none)
      (hvalue : Option.Rel Spells (fields.lookup "clip") (some value))
      (hlow : Option.Rel Spells (fields.lookup "low") low)
      (hhigh : Option.Rel Spells (fields.lookup "high") high) :
      Spells (.object fields) (.clip value low high)
  | rangeNormalize {fields value low high} (h : IsForm fields "range" ["low", "high"])
      (hvalue : Option.Rel Spells (fields.lookup "range") (some value))
      (hlow : Option.Rel Spells (fields.lookup "low") (some low))
      (hhigh : Option.Rel Spells (fields.lookup "high") (some high)) :
      Spells (.object fields) (.rangeNormalize value low high)
  | percentDenormalize {fields value low high} (h : IsForm fields "percent" ["low", "high"])
      (hvalue : Option.Rel Spells (fields.lookup "percent") (some value))
      (hlow : Option.Rel Spells (fields.lookup "low") (some low))
      (hhigh : Option.Rel Spells (fields.lookup "high") (some high)) :
      Spells (.object fields) (.percentDenormalize value low high)
  | collect {fields items es} (h : IsForm fields "collect" [])
      (hitems : fields.lookup "collect" = some (.list items)) (hne : items ≠ [])
      (hes : List.Forall₂ Spells items es) : Spells (.object fields) (.collect es)
  | lengthOf {fields mode value} (h : IsForm fields "lengthOf" ["value"])
      (hword : HasWord fields "lengthOf" (mode : LengthMode))
      (hvalue : Option.Rel Spells (fields.lookup "value") (some value)) :
      Spells (.object fields) (.lengthOf mode value)
  | hasTag {fields tag scope} (h : IsForm fields "has" ["which"])
      (hname : HasName fields "has" tag) (hscope : HasScope fields scope) :
      Spells (.object fields) (.hasTag tag scope)
  | tagConstant {fields name scope default}
      (h : IsForm fields "tagConstant" ["which", "default"])
      (hname : HasName fields "tagConstant" name) (hscope : HasScope fields scope)
      (hdefault : Option.Rel Spells (fields.lookup "default") default) :
      Spells (.object fields) (.tagConstant name scope default)
  | bind {fields name value block} (h : IsForm fields "let" ["value", "block"])
      (hname : HasName fields "let" name)
      (hvalue : Option.Rel Spells (fields.lookup "value") (some value))
      (hblock : Option.Rel Spells (fields.lookup "block") (some block)) :
      Spells (.object fields) (.bind name value block)
  | var {fields name} (h : IsForm fields "variable" []) (hname : HasName fields "variable" name) :
      Spells (.object fields) (.var name)
  | log {fields label value} (h : IsForm fields "log" ["label"]) (hlabel : HasLabel fields label)
      (hvalue : Option.Rel Spells (fields.lookup "log") (some value)) :
      Spells (.object fields) (.log value label)

/-! ## What the grammar never makes -/

/-- No leaf is NaN. -/
theorem Numeral.isNaN {v : Value} {x : Float} (h : Numeral v x) : x.isNaN = false := by
  cases h with
  | null => decide +kernel
  | bool b => cases b <;> decide +kernel
  | int h =>
    unfold ofInt at h
    dsimp only at h
    split at h
    · cases h
    · obtain rfl := Except.ok.inj h
      exact isNaN_ofInt _
  | float h => exact h

end Value

/-- **An expression that is well made by itself:** its array is not empty and has no NaN, its range
has a bound, its collection has members. -/
def Expr.WellMade : Expr → Prop
  | literal xs => xs ≠ [] ∧ ∀ x ∈ xs, x.isNaN = false
  | clip _ low high => low ≠ none ∨ high ≠ none
  | collect items => items ≠ []
  | _ => True

namespace Value

variable {v : Value} {e : Expr}

theorem Spells.wellMade (h : Spells v e) : e.WellMade := by
  cases h with
  | number h => exact ⟨by simp, by simpa using h.isNaN⟩
  | numbers hne h =>
    refine ⟨?_, forall_mem_of_forall₂ h fun _ _ hx => hx.isNaN⟩
    rintro rfl
    cases h
    exact hne rfl
  | clip _ hbounds => exact hbounds
  | collect _ _ hne hes =>
    rintro rfl
    cases hes
    exact hne rfl
  | _ => trivial

/-- What a field spells is spelled. -/
theorem exists_spells_of_rel {o : Option Value} {x : Option Expr} (h : Option.Rel Spells o x) :
    ∀ c ∈ x.toList, ∃ w, Spells w c := by
  cases h with
  | none => simp
  | some h =>
    intro c hc
    obtain rfl : c = _ := by simpa using hc
    exact ⟨_, h⟩

/-- **Sub-expressions are spelled, too.** -/
theorem Spells.children (h : Spells v e) : ∀ c ∈ e.children, ∃ w, Spells w c := by
  have hfield : ∀ {o : Option Value} {x : Expr}, Option.Rel Spells o (some x) → ∃ w, Spells w x :=
    fun h => exists_spells_of_rel h _ (by simp)
  simp only [Expr.children]
  cases h with
  | number | numbers | input | edgeConstant | parentValue | rootValue | resultValue | colorLiteral
  | hasTag | var => simp
  | combine _ _ hvalue | lengthOf _ _ hvalue | log _ _ hvalue | unary _ _ hvalue =>
    simpa using hfield hvalue
  | arithmetic _ _ ha hb | compare _ _ ha hb | bind _ _ ha hb =>
    simpa using ⟨hfield ha, hfield hb⟩
  | gradient _ ha hb hc | choose _ ha hb hc | rangeNormalize _ ha hb hc
  | percentDenormalize _ ha hb hc =>
    simpa using ⟨hfield ha, hfield hb, hfield hc⟩
  | colorRGB _ _ hred hgreen hblue halpha =>
    simp only [List.cons_append, List.nil_append, List.forall_mem_cons]
    exact ⟨⟨_, hred⟩, ⟨_, hgreen⟩, ⟨_, hblue⟩, exists_spells_of_rel halpha⟩
  | filter _ hcondition hvalue hdefault =>
    simp only [List.cons_append, List.nil_append, List.forall_mem_cons]
    exact ⟨hfield hcondition, hfield hvalue, exists_spells_of_rel hdefault⟩
  | clip _ _ hvalue hlow hhigh =>
    simp only [List.cons_append, List.nil_append, List.forall_mem_cons, List.forall_mem_append]
    exact ⟨hfield hvalue, exists_spells_of_rel hlow, exists_spells_of_rel hhigh⟩
  | tagConstant _ _ _ hdefault => exact exists_spells_of_rel hdefault
  | collect _ _ _ hes => exact forall_mem_of_forall₂ hes fun w _ h => ⟨w, h⟩

/-- **All of an expression of the grammar is well made.** -/
theorem Spells.forall_wellMade (h : Spells v e) : ∀ x ∈ e.walk, x.WellMade := by
  intro x hx
  obtain ⟨_, hx⟩ := Expr.forall_mem_walk (p := fun e => ∃ v, Spells v e)
    (fun _ ⟨_, h⟩ => h.children) e ⟨v, h⟩ x hx
  exact hx.wellMade

end Value

end ValuedGraph
