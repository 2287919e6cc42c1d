import ValuedGraph.Expr.Parser
import ValuedGraph.Proofs.Document.Parts
import ValuedGraph.Proofs.Failing

/-!
# What the parser fails over

Where an expression cannot be read, some part of its document is to blame: a numeric fault comes
from a part without a number, and what an error cannot write is such a part, too.

* `ParseFailure.Within`: **failures that some part is to blame for.**
* `Form.Within`, `Reading.Within`: forms and readings that fail in no other way.
* `Expr.fails_forms`: every structured form.
* `Value.reading_within`, `Expr.fails_parse`: **every document.**
-/

namespace ValuedGraph

variable {S : Value → Prop} {α : Type}

/-- **A failure that a document is to blame for** of which a property holds: a fault is one of the
document, and what the wording of an error has to write, but cannot, is the document. -/
def ParseFailure.Within (S : Value → Prop) : ParseFailure → Prop
  | numeric f => ∃ w, S w ∧ w.Faulty f
  | malformed _ error => ∀ v, error.value? = some v → v.isWritable = false → S v

/-- A reader that fails over documents with a property only. -/
def Reader.Within (S : Value → Prop) (r : Reader) : Prop :=
  ∀ path, OnlyFails (ParseFailure.Within S) (r path)

/-- A reading that fails over documents with a property only. -/
structure Reading.Within (S : Value → Prop) (r : Reading) : Prop where
  expression : Reader.Within S r.expression
  items : ∀ rs, r.items = some rs → ∀ x ∈ rs, Reader.Within S x

/-- **A form that fails over documents with a property only:** its object, and its fields. -/
structure Form.Within (S : Value → Prop) (f : Form) : Prop where
  object : S (.object f.fields)
  field : ∀ key v, f.fields.lookup key = some v → S v
  reading : ∀ key r, f.readings.lookup key = some r → r.Within S

section Leaves

theorem fails_leafNumber {v : Value} (hv : S v) :
    OnlyFails (fun f => ∃ w, S w ∧ w.Faulty f) v.leafNumber := by
  cases v with
  | int n => exact OnlyFails.map fun f hf => ⟨_, hv, .integer hf⟩
  | null | bool _ | float _ | text _ | moment _ | list _ | object _ => exact OnlyFails.ok _

theorem fails_arrayFrom {items : List Value} (h : ∀ v ∈ items, S v) (path : String) (i : Nat) :
    OnlyFails (ParseFailure.Within S) (arrayFrom path i items) := by
  induction items generalizing i with
  | nil => exact OnlyFails.ok []
  | cons v rest ih =>
    have hv := h v (by simp)
    unfold arrayFrom
    split
    · rename_i f hf
      exact OnlyFails.error (fails_leafNumber hv f hf)
    · refine OnlyFails.error fun u hu _ => ?_
      obtain rfl : v = u := by simpa [SyntaxError.value?] using hu
      exact hv
    · exact (ih (fun u hu => h u (by simp [hu])) (i + 1)).map

theorem fails_readArray {items : List Value} (h : ∀ v ∈ items, S v) :
    Reader.Within S (readArray items) := by
  intro path
  refine OnlyFails.ite (fun _ => OnlyFails.error fun v hv => by cases hv) fun _ => ?_
  exact (fails_arrayFrom h path 0).map

theorem fails_readLeaf {v : Value} (hv : S v) : Reader.Within S (readLeaf v) := by
  intro path
  unfold readLeaf
  split
  · rename_i f hf
    exact OnlyFails.error (fails_leafNumber hv f hf)
  · exact OnlyFails.ok _
  · split
    · exact OnlyFails.ite (fun _ => OnlyFails.ok _) fun _ => OnlyFails.error fun u hu => by cases hu
    · refine OnlyFails.error fun u hu _ => ?_
      obtain rfl : v = u := by simpa [SyntaxError.value?] using hu
      exact hv

end Leaves

namespace Form

variable {f : Form} {key : String}

theorem fails_refuse {error : SyntaxError}
    (h : ∀ v, error.value? = some v → v.isWritable = false → S v) :
    OnlyFails (ParseFailure.Within S) (f.refuse error : Except ParseFailure α) :=
  OnlyFails.error h

/-- Most errors write no document. -/
theorem fails_refuse_of_none {error : SyntaxError} (h : error.value? = none) :
    OnlyFails (ParseFailure.Within S) (f.refuse error : Except ParseFailure α) :=
  fails_refuse fun v hv => by
    rw [h] at hv
    cases hv

theorem fails_word (β : Type) [Vocabulary β] (key what : String) :
    OnlyFails (ParseFailure.Within S) (f.word β key what) := by
  unfold Form.word
  split
  · exact OnlyFails.ok _
  · exact fails_refuse_of_none rfl

theorem fails_each {rs : List Reader} (hrs : ∀ r ∈ rs, Reader.Within S r) (key : String) :
    OnlyFails (ParseFailure.Within S) (f.each key rs) := by
  refine OnlyFails.mapM fun e he => ?_
  exact hrs e.1 (List.fst_mem_of_mem_zipIdx he) _

theorem fails_label : OnlyFails (ParseFailure.Within S) f.label := by
  refine OnlyFails.ite (fun _ => ?_) fun _ => OnlyFails.ok _
  split
  · exact OnlyFails.ok _
  · exact fails_refuse_of_none rfl

theorem fails_scope : OnlyFails (ParseFailure.Within S) f.scope :=
  OnlyFails.ite (fun _ => fails_word TagScope _ _) fun _ => OnlyFails.ok _

/-- The field of a name holds it. -/
theorem lookup_of_name {text : String} (h : f.name key = .ok text) :
    f.fields.lookup key = some (.text text) := by
  unfold Form.name at h
  split at h
  · rename_i s hvalue
    split at h
    · cases h
    · obtain rfl := Except.ok.inj h
      unfold Form.value at hvalue
      cases hfield : f.fields.lookup key with
      | none =>
        rw [hfield] at hvalue
        cases hvalue
      | some v =>
        rw [hfield] at hvalue
        exact congrArg some hvalue
  · cases h

section Within

variable (h : f.Within S)
include h

/-- A field that no message can write is there. -/
theorem Within.value (hv : (f.value key).isWritable = false) : S (f.value key) := by
  unfold Form.value at hv ⊢
  cases hfield : f.fields.lookup key with
  | none =>
    rw [hfield] at hv
    cases hv
  | some v => exact h.field key v hfield

theorem fails_name (key : String) : OnlyFails (ParseFailure.Within S) (f.name key) := by
  unfold Form.name
  split
  · refine OnlyFails.ite (fun _ => fails_refuse fun v hv hw => ?_) fun _ => OnlyFails.ok _
    obtain rfl := Option.some.inj hv
    cases hw
  · refine fails_refuse fun v hv hw => ?_
    obtain rfl := Option.some.inj hv
    exact h.value hw

theorem fails_optional (key : String) : OnlyFails (ParseFailure.Within S) (f.optional key) := by
  unfold Form.optional
  split
  · rename_i r hr
    exact ((h.reading key r hr).expression _).map
  · exact OnlyFails.ok _

theorem fails_required (key : String) : OnlyFails (ParseFailure.Within S) (f.required key) := by
  unfold Form.required
  split
  · rename_i r hr
    exact (h.reading key r hr).expression _
  · exact fails_refuse_of_none rfl

theorem fails_three (build : Expr → Expr → Expr → Expr) (a b c : String) :
    OnlyFails (ParseFailure.Within S) (f.three build a b c) :=
  (fails_required h a).bind fun _ _ => (fails_required h b).bind fun _ _ =>
    (fails_required h c).bind fun _ _ => OnlyFails.pure _

theorem fails_operator : OnlyFails (ParseFailure.Within S) f.operator := by
  unfold Form.operator
  split
  · split
    · split
      · exact fails_refuse_of_none rfl
      · exact (fails_required h "a").bind fun _ _ => OnlyFails.pure _
    · split
      · exact (fails_required h "a").bind fun _ _ => (fails_required h "b").bind fun _ _ =>
          OnlyFails.pure _
      · exact fails_refuse_of_none rfl
  · rename_i hv
    refine fails_refuse fun v hv hw => ?_
    obtain rfl := Option.some.inj hv
    exact h.value hw

/-- **Colors** fail over their channels and over their number. -/
theorem fails_color : OnlyFails (ParseFailure.Within S) f.color := by
  unfold Form.color
  refine (fails_name h "color").bind fun text hname => ?_
  have htext := lookup_of_name hname
  split
  · rename_i c hc
    split
    · exact OnlyFails.pure _
    · rename_i fault hpack
      exact OnlyFails.error ⟨_, h.object, .packing htext hc hpack⟩
  · rename_i fault hfault
    refine OnlyFails.ite (fun _ => fails_refuse_of_none rfl) fun hrange => OnlyFails.error ?_
    exact ⟨_, h.object, .channel htext hfault (by simpa using hrange)⟩
  · exact fails_refuse_of_none rfl

/-- The items of a field. -/
theorem Within.items {rs : List Reader}
    (hrs : (f.readings.lookup key).bind Reading.items = some rs) :
    ∀ r ∈ rs, Reader.Within S r := by
  obtain ⟨r, hr, hitems⟩ := Option.bind_eq_some_iff.1 hrs
  exact (h.reading key r hr).items rs hitems

theorem fails_channels : OnlyFails (ParseFailure.Within S) f.channels := by
  unfold Form.channels
  split
  · rename_i rs hrs
    refine OnlyFails.ite (fun _ => fails_refuse_of_none rfl) fun _ => ?_
    refine (fails_each (h.items hrs) "rgb").bind fun channels _ => ?_
    split
    · exact (fails_optional h "alpha").bind fun _ _ => OnlyFails.pure _
    · exact fails_refuse_of_none rfl
  · exact fails_refuse_of_none rfl

theorem fails_collection : OnlyFails (ParseFailure.Within S) f.collection := by
  unfold Form.collection
  split
  · rename_i rs hrs
    refine OnlyFails.ite (fun _ => fails_refuse_of_none rfl) fun _ => ?_
    exact (fails_each (h.items hrs) "collect").bind fun _ _ => OnlyFails.pure _
  · exact fails_refuse_of_none rfl

theorem fails_clip : OnlyFails (ParseFailure.Within S) f.clip := by
  unfold Form.clip
  refine OnlyFails.ite (fun _ => fails_refuse_of_none rfl) fun _ => ?_
  exact (fails_required h "clip").bind fun _ _ => (fails_optional h "low").bind fun _ _ =>
    (fails_optional h "high").bind fun _ _ => OnlyFails.pure _

end Within

end Form

open Form in
/-- **Every structured form** fails over its object and its fields only. -/
theorem Expr.fails_forms {f : Form} (h : f.Within S) : ∀ form ∈ Expr.forms,
    OnlyFails (ParseFailure.Within S) (form.2.2 f) := by
  have hname : ∀ (key : String) (build : String → Expr),
      OnlyFails (ParseFailure.Within S) (do return build (← f.name key)) := fun key build =>
    (fails_name h key).bind fun _ _ => OnlyFails.pure _
  have hword : ∀ (β : Type) [Vocabulary β] (key what field : String) (build : β → Expr → Expr),
      OnlyFails (ParseFailure.Within S) (do
        let word ← f.word β key what
        return build word (← f.required field)) := fun β _ key what field build =>
    (fails_word β key what).bind fun _ _ => (fails_required h field).bind fun _ _ =>
      OnlyFails.pure _
  simp only [Expr.forms, List.forall_mem_cons, List.not_mem_nil, false_implies, implies_true,
    and_true]
  refine ⟨?_, ?_, ?_, ?_, ?_, ?_, ?_, ?_, ?_, ?_, ?_, ?_, ?_, ?_, ?_, ?_, ?_, ?_, ?_, ?_, ?_, ?_⟩
  · exact hname "constant" .edgeConstant
  · exact hname "ref" .parentValue
  · exact hname "root" .rootValue
  · exact hname "result" .resultValue
  · exact hword Combiner "combine" "combiner" "value" .combine
  · exact fails_color h
  · exact fails_channels h
  · exact fails_three h .gradient "gradient" "a" "b"
  · exact fails_operator h
  · exact (fails_word Comparator "compare" "comparator").bind fun _ _ =>
      (fails_required h "a").bind fun _ _ => (fails_required h "b").bind fun _ _ => OnlyFails.pure _
  · exact fails_three h .choose "if" "then" "else"
  · exact (fails_required h "filter").bind fun _ _ => (fails_required h "value").bind fun _ _ =>
      (fails_optional h "default").bind fun _ _ => OnlyFails.pure _
  · exact fails_clip h
  · exact fails_three h .rangeNormalize "range" "low" "high"
  · exact fails_three h .percentDenormalize "percent" "low" "high"
  · exact fails_collection h
  · exact hword LengthMode "lengthOf" "lengthOf mode" "value" .lengthOf
  · exact (fails_name h "has").bind fun _ _ => fails_scope.bind fun _ _ => OnlyFails.pure _
  · exact (fails_name h "tagConstant").bind fun _ _ => fails_scope.bind fun _ _ =>
      (fails_optional h "default").bind fun _ _ => OnlyFails.pure _
  · exact (fails_name h "let").bind fun _ _ => (fails_required h "value").bind fun _ _ =>
      (fails_required h "block").bind fun _ _ => OnlyFails.pure _
  · exact hname "variable" .var
  · exact fails_label.bind fun _ _ => (fails_required h "log").bind fun _ _ => OnlyFails.pure _

/-- **Objects** fail over themselves and their fields only. -/
theorem Form.fails_parse {f : Form} (h : f.Within S) :
    OnlyFails (ParseFailure.Within S) f.parse := by
  unfold Form.parse
  dsimp only
  split
  · exact fails_refuse_of_none rfl
  · rename_i marker _
    split
    · rename_i allowed build hform
      split
      · obtain ⟨before, after, hforms, -⟩ := List.lookup_eq_some_iff.1 hform
        exact Expr.fails_forms h (marker, allowed, build) (hforms ▸ by simp)
      · exact fails_refuse_of_none rfl
    · exact fails_refuse_of_none rfl
  · exact fails_refuse_of_none rfl

namespace Value

mutual

/-- **How a document reads** fails over its parts only. -/
theorem reading_within (hS : Hereditary S) : ∀ v : Value, S v → v.reading.Within S
  | .list items => fun hv => by
    have hitems : ∀ v ∈ items, S v := fun v hmem => hS hv (.item hmem .self)
    refine ⟨fails_readArray hitems, fun rs hrs => ?_⟩
    obtain rfl := Option.some.inj hrs
    exact itemReaders_within hS items hitems
  | .object fields => fun hv => by
    have hfields : ∀ e ∈ fields, S e.2 := fun e hmem => hS hv (.field hmem .self)
    refine ⟨fun path => Form.fails_parse ⟨hv, fun key v hlookup => ?_, ?_⟩,
      fun rs hrs => by cases hrs⟩
    · exact hS hv (.of_lookup hlookup)
    · exact fieldReadings_within hS fields hfields
  | .null | .bool _ | .int _ | .float _ | .text _ | .moment _ => fun hv =>
    ⟨fails_readLeaf hv, fun rs hrs => by cases hrs⟩

theorem itemReaders_within (hS : Hereditary S) : ∀ items : List Value, (∀ v ∈ items, S v) →
    ∀ r ∈ itemReaders items, Reader.Within S r
  | [] => fun _ r hr => by simp [itemReaders] at hr
  | v :: rest => fun h r hr => by
    rcases List.mem_cons.1 hr with rfl | hr
    · exact (reading_within hS v (h v (by simp))).expression
    · exact itemReaders_within hS rest (fun u hu => h u (by simp [hu])) r hr

theorem fieldReadings_within (hS : Hereditary S) : ∀ fields : List (String × Value),
    (∀ e ∈ fields, S e.2) → ∀ key r, (fieldReadings fields).lookup key = some r → r.Within S
  | [] => fun _ key r hr => by cases hr
  | (k, v) :: rest => fun h key r hr => by
    rw [fieldReadings, List.lookup_cons] at hr
    split at hr
    · obtain rfl := Option.some.inj hr
      exact reading_within hS v (h (k, v) (by simp))
    · exact fieldReadings_within hS rest (fun u hu => h u (by simp [hu])) key r hr

end

end Value

/-- **Reading an expression** fails over parts of its document only. -/
theorem Expr.fails_parse (hS : Value.Hereditary S) {v : Value} (hv : S v) (path : String) :
    OnlyFails (ParseFailure.Within S) (Expr.parse v path) :=
  (Value.reading_within hS v hv).expression path

end ValuedGraph
