import ValuedGraph.Color
import ValuedGraph.Document.Basic

/-!
# Parts of documents

A document consists of leaves, and of lists and objects made of documents. Some of its parts have no
number, or cannot be written in a message.

* `Value.PartOf`: **what a document consists of.**
* `Value.Faulty`: **parts that arithmetic has no answer for,** with the fault.
* `Value.exists_unwritable`: a document that no message can write has an integer that none can.
-/

namespace ValuedGraph

namespace Value

variable {u v w : Value}

/-- **A part of a document:** the document itself, or a part of one of its items or fields. -/
inductive PartOf : Value → Value → Prop
  | self {v : Value} : PartOf v v
  | item {w v : Value} {items : List Value} (hv : v ∈ items) (h : PartOf w v) :
      PartOf w (.list items)
  | field {w v : Value} {k : String} {fields : List (String × Value)} (hv : (k, v) ∈ fields)
      (h : PartOf w v) : PartOf w (.object fields)

theorem PartOf.trans (h : u.PartOf v) (h' : v.PartOf w) : u.PartOf w := by
  induction h' with
  | self => exact h
  | item hv _ ih => exact .item hv ih
  | field hv _ ih => exact .field hv ih

/-- What stands in a field is a part of the object. -/
theorem PartOf.of_lookup {fields : List (String × Value)} {k : String}
    (h : fields.lookup k = some v) : v.PartOf (.object fields) := by
  obtain ⟨before, after, rfl, -⟩ := List.lookup_eq_some_iff.1 h
  have hmem : (k, v) ∈ before ++ (k, v) :: after := by simp
  exact .field hmem .self

/-- A property that documents pass on to their parts. -/
def Hereditary (S : Value → Prop) : Prop := ∀ {v w : Value}, S v → w.PartOf v → S w

/-- **A part without an answer:** an integer beyond the doubles, a color with an infinite channel or
without a number, or an integer with too many digits for a message. -/
inductive Faulty : Value → NumericFault → Prop
  | integer {n : Int} {f : NumericFault} (h : ofInt n = .error f) : Faulty (.int n) f
  | channel {fields : List (String × Value)} {text : String} {f : NumericFault}
      (htext : fields.lookup "color" = some (.text text))
      (h : Color.ofText text = .error (.numeric f)) (hrange : f.ofValue = false) :
      Faulty (.object fields) f
  | packing {fields : List (String × Value)} {text : String} {c : Color} {f : NumericFault}
      (htext : fields.lookup "color" = some (.text text)) (hcolor : Color.ofText text = .ok c)
      (h : c.pack = .error f) : Faulty (.object fields) f
  | unwritable {n : Int} (h : (int n).isWritable = false) : Faulty (.int n) .unwritableInteger

mutual

/-- **A document that no message can write** has an integer that none can. -/
theorem exists_unwritable : ∀ v : Value, v.isWritable = false →
    ∃ w : Value, w.PartOf v ∧ w.Faulty .unwritableInteger
  | .int n => fun h => ⟨.int n, .self, .unwritable h⟩
  | .list items => fun h => by
    obtain ⟨v, hv, w, hw, hf⟩ := exists_unwritable_item items h
    exact ⟨w, .item hv hw, hf⟩
  | .object fields => fun h => by
    obtain ⟨k, v, hv, w, hw, hf⟩ := exists_unwritable_field fields h
    exact ⟨w, .field hv hw, hf⟩
  | .null | .bool _ | .float _ | .text _ | .moment _ => fun h => by cases h

theorem exists_unwritable_item : ∀ items : List Value, areWritable items = false →
    ∃ v ∈ items, ∃ w : Value, w.PartOf v ∧ w.Faulty .unwritableInteger
  | [] => fun h => by cases h
  | v :: rest => fun h => by
    rw [areWritable, Bool.and_eq_false_iff] at h
    rcases h with hv | hrest
    · obtain ⟨w, hw⟩ := exists_unwritable v hv
      exact ⟨v, by simp, w, hw⟩
    · obtain ⟨u, hu, hw⟩ := exists_unwritable_item rest hrest
      exact ⟨u, by simp [hu], hw⟩

theorem exists_unwritable_field : ∀ fields : List (String × Value),
    fieldsAreWritable fields = false →
    ∃ k v, (k, v) ∈ fields ∧ ∃ w : Value, w.PartOf v ∧ w.Faulty .unwritableInteger
  | [] => fun h => by cases h
  | (k, v) :: rest => fun h => by
    rw [fieldsAreWritable, Bool.and_eq_false_iff] at h
    rcases h with hv | hrest
    · obtain ⟨w, hw⟩ := exists_unwritable v hv
      exact ⟨k, v, by simp, w, hw⟩
    · obtain ⟨j, u, hu, hw⟩ := exists_unwritable_field rest hrest
      exact ⟨j, u, by simp [hu], hw⟩

end

end Value

end ValuedGraph
