import ValuedGraph.Proofs.Color
import ValuedGraph.Proofs.Draft.Contents
import ValuedGraph.Proofs.Expr.Parsing

/-!
# What definitions fail over

A document becomes a definition or is rejected with an error, unless some part of it, or of a
library, has no answer: then reading it ends in that fault.

* `DraftFailure.Within`: **failures that some document is to blame for.**
* `EdgePlace.within_edge`, `PropertyDraft.within_resolve`, `NodeDraft.within_resolve`,
  `within_resolveScenarios`: the parts of a draft.
* `Draft.within_resolve`: **whole drafts.**
* `Definition.ofDocument_rejects_or_faults`: **documents.**
* `Libraries.sound_standard`: the core library has no faults.
* `Definition.ofDocument_oneValue_of_ofInt`, `Definition.ofDocument_oneValue_of_isWritable`: faults
  do happen, over an integer beyond the doubles, and over one that no message can write.
-/

namespace ValuedGraph

variable {S : Value → Prop} {α : Type}

/-- **A failure that a document is to blame for** of which a property holds. -/
def DraftFailure.Within (S : Value → Prop) : DraftFailure → Prop
  | rejected error => ∀ v, error.value? = some v → v.isWritable = false → S v
  | numeric f => ∃ w, S w ∧ w.Faulty f

namespace Resolved

/-- A part of a draft that fails over documents with a property only. -/
def Within (S : Value → Prop) (x : Resolved α) : Prop := OnlyFails (DraftFailure.Within S) x

theorem within_reject {error : DefinitionError}
    (h : ∀ v, error.value? = some v → v.isWritable = false → S v) :
    (reject error : Resolved α).Within S := OnlyFails.error h

/-- Most errors write no document. -/
theorem within_reject_of_none {error : DefinitionError} (h : error.value? = none) :
    (reject error : Resolved α).Within S :=
  within_reject fun v hv => by
    rw [h] at hv
    cases hv

theorem within_number {v : Value} (hv : S v) (path : String) : (number path v).Within S := by
  unfold number
  split
  · exact OnlyFails.ok _
  · refine within_reject fun u hu _ => ?_
    obtain rfl : v = u := Option.some.inj hu
    exact hv
  · rename_i fault hfault
    exact OnlyFails.error (fails_leafNumber hv fault hfault)

theorem within_numbers {t : Table Value} (h : ∀ v ∈ t.values, S v) (path : String) :
    (numbers path t).Within S :=
  OnlyFails.traverse fun _ v hv => within_number (h v hv) _

theorem within_combiner (path : String) (word : Option String) : (combiner path word).Within S := by
  unfold combiner
  split
  · exact OnlyFails.ok _
  · split
    · exact OnlyFails.ok _
    · exact within_reject_of_none rfl

section Expressions

variable (hS : Value.Hereditary S)
include hS

theorem within_expression {v : Value} (hv : S v) (path : String) :
    (expression path v).Within S := by
  have hparse := Expr.fails_parse hS hv path
  unfold expression
  split
  · exact OnlyFails.ok _
  · rename_i error herror
    exact within_reject fun u hu => hparse _ herror u hu
  · rename_i fault hfault
    exact OnlyFails.error (hparse _ hfault)

theorem within_ownExpression {v : Value} (hv : S v) (owner path : String) :
    (ownExpression owner path v).Within S := (within_expression hS hv path).map

theorem within_overrides {t : Table Value} (h : ∀ v ∈ t.values, S v) (path : String) :
    (overrides path t).Within S :=
  OnlyFails.traverse fun property v hv => within_ownExpression hS (h v hv) property _

end Expressions

theorem within_settings {read : String → Value → Resolved Expr}
    (hread : ∀ {v}, S v → ∀ path, (read path v).Within S) {t : Table Value}
    (h : ∀ v ∈ t.values, S v) (known : List String) (path : String) : (settings known read path t).Within S := by
  refine OnlyFails.traverse fun key v hv => OnlyFails.ite (fun _ => ?_) fun _ => ?_
  · exact hread (h v hv) _
  · exact within_reject_of_none rfl

end Resolved

namespace EdgePlace

open Resolved (within_reject within_reject_of_none within_number)

theorem within_constants {fields : List (String × Value)} (h : ∀ e ∈ fields, S e.2)
    (path : String) : (constants path fields).Within S := by
  induction fields with
  | nil => exact OnlyFails.ok []
  | cons e rest ih =>
    have hrest := ih fun d hd => h d (by simp [hd])
    refine OnlyFails.ite (fun _ => hrest) fun _ => OnlyFails.ite (fun _ => ?_) fun _ => ?_
    · exact within_reject_of_none rfl
    · have hnumber := within_number (h e (by simp)) s!"{path}.{e.1}"
      exact hnumber.bind fun _ _ => hrest.bind fun _ _ => OnlyFails.pure _

theorem within_typeOf (path : String) (v : Option Value) : (typeOf path v).Within S := by
  unfold typeOf
  split
  · exact OnlyFails.ite (fun _ => within_reject_of_none rfl) fun _ => OnlyFails.ok _
  · exact within_reject_of_none rfl

/-- What a place and a field say, if no message can write it, is what the field says. -/
theorem of_fieldValue {given : Option String} {found : Option Value} (h : ∀ v, found = some v → S v)
    {v : Value} (hv : fieldValue given found = some v) (hw : v.isWritable = false) : S v := by
  cases found with
  | some u =>
    obtain rfl : u = v := Option.some.inj hv
    exact h u rfl
  | none =>
    obtain ⟨s, -, rfl⟩ := Option.map_eq_some_iff.1 hv
    cases hw

theorem within_refOf {v : Option Value} (h : ∀ u, v = some u → u.isWritable = false → S u)
    (path : String) : (refOf path v).Within S := by
  unfold refOf
  split
  · exact OnlyFails.ok _
  · exact OnlyFails.ok _
  · exact OnlyFails.ok _
  · rename_i u _ _
    refine within_reject fun w hw hwrite => ?_
    obtain rfl : u = w := Option.some.inj hw
    exact h u rfl hwrite

/-- A conflict writes what the field says. -/
theorem of_getD {v : Option Value} (h : ∀ u, v = some u → u.isWritable = false → S u)
    (hw : (v.getD .null).isWritable = false) : S (v.getD .null) := by
  cases v with
  | some u => exact h u rfl hw
  | none => cases hw

section Places

variable (hS : Value.Hereditary S) {v : Value} (hv : S v)
include hS hv

/-- **One edge** fails over its fields, or over itself. -/
theorem within_edge (p : EdgePlace) (path : String) : (p.edge path v).Within S := by
  unfold edge
  split
  · rename_i fields
    have hfields : ∀ e ∈ fields, S e.2 := fun e he => hS hv (.field he .self)
    have hfield (given : Option String) (key : String) : ∀ u,
        fieldValue given (fields.lookup key) = some u → u.isWritable = false → S u := fun u =>
      of_fieldValue fun w hw => hS hv (.of_lookup hw)
    dsimp only
    -- two tests for conflicts, each over what the place or a field says, then the edge
    refine OnlyFails.guard (fun _ => ?_) (OnlyFails.guard (fun _ => ?_) ?_)
    · refine within_reject fun u hu hwrite => ?_
      obtain rfl := Option.some.inj hu
      exact of_getD (hfield p.type "type") hwrite
    · refine within_reject fun u hu hwrite => ?_
      obtain rfl := Option.some.inj hu
      exact of_getD (hfield p.ref "ref") hwrite
    · refine (within_typeOf path _).bind fun _ _ => ?_
      refine (within_refOf (hfield p.ref "ref") path).bind fun _ _ => ?_
      exact (within_constants hfields path).bind fun _ _ => OnlyFails.pure _
  · refine within_reject fun u hu _ => ?_
    obtain rfl := Option.some.inj hu
    exact hv

end Places

theorem within_listed (hS : Value.Hereditary S) {items : List Value} (h : ∀ v ∈ items, S v)
    (p : EdgePlace) (path : String) : (p.listed path items).Within S :=
  OnlyFails.mapM fun e he => within_edge hS (h e.1 (List.fst_mem_of_mem_zipIdx he)) p _

section Groups

variable (hS : Value.Hereditary S) {v : Value} (hv : S v)
include hS hv

theorem within_edges (p : EdgePlace) (path : String) : (p.edges path v).Within S := by
  unfold edges
  split
  · exact within_listed hS (fun v hmem => hS hv (.item hmem .self)) p path
  · exact (within_edge hS hv p path).bind fun _ _ => OnlyFails.pure _

/-- **Edges below a key,** which may be keyed once more. -/
theorem within_group (p : EdgePlace) (path : String) : (p.group path v).Within S := by
  unfold group
  split
  · rename_i fields
    refine OnlyFails.ite (fun _ => within_edges hS hv p path) fun _ => ?_
    refine OnlyFails.bind (OnlyFails.mapM fun e he => ?_) fun _ _ => OnlyFails.pure _
    exact within_edges hS (hS hv (.field he .self)) (p.below e.1) _
  · exact within_edges hS hv p path

end Groups

theorem within_ofKey (path key : String) (properties nodes : List String) :
    (ofKey path key properties nodes).Within S := by
  unfold ofKey
  split
  · exact within_reject_of_none rfl
  · exact OnlyFails.ok _
  · exact OnlyFails.ok _
  · exact within_reject_of_none rfl

end EdgePlace

theorem ImpliesRule.within_resolve (property : String) (names : List String)
    (rule : Option ImpliesRule) : (ImpliesRule.resolve property names rule).Within S := by
  unfold ImpliesRule.resolve
  split
  · exact OnlyFails.ok _
  · exact OnlyFails.ok _
  · split
    · exact OnlyFails.ok _
    · exact Resolved.within_reject_of_none rfl
  · split
    · exact OnlyFails.ok _
    · exact Resolved.within_reject_of_none rfl

theorem within_checkParents (drafts : Table ScenarioDraft) (l : List (String × ScenarioDraft)) :
    (checkParents drafts l).Within S := by
  induction l with
  | nil => exact OnlyFails.ok _
  | cons e rest ih =>
    unfold checkParents
    split
    · exact OnlyFails.ite (fun _ => ih) fun _ => Resolved.within_reject_of_none rfl
    · exact ih

section Drafts

variable (hS : Value.Hereditary S)
include hS

open Resolved

/-- **The edges of a node.** -/
theorem EdgesDraft.within_resolve {d : EdgesDraft} (h : ∀ v ∈ d.documents, S v) (path : String)
    (properties nodes : List String) : (d.resolve path properties nodes).Within S := by
  cases d with
  | listed items => exact EdgePlace.within_listed hS h {} path
  | keyed groups =>
    refine OnlyFails.bind (OnlyFails.mapM fun e he => ?_) fun _ _ => OnlyFails.pure _
    have hv : S e.2 := h e.2 (List.mem_map_of_mem he)
    exact (EdgePlace.within_ofKey _ e.1 properties nodes).bind fun p _ =>
      EdgePlace.within_group hS hv p _

/-- **A property** fails over its value, its constants and its display settings. -/
theorem PropertyDraft.within_resolve {d : PropertyDraft} (h : ∀ v ∈ d.documents, S v)
    (names : List String) (name : String) : (d.resolve names name).Within S := by
  obtain ⟨hvalue, htables⟩ := List.forall_mem_cons.1 h
  obtain ⟨hconstants, hdisplay⟩ := List.forall_mem_append.1 htables
  have hread : ∀ {v}, S v → ∀ path, (ownExpression name path v).Within S := fun hv =>
    within_ownExpression hS hv name
  unfold PropertyDraft.resolve
  dsimp only
  refine OnlyFails.guard (fun _ => within_reject_of_none rfl) ?_
  refine (within_ownExpression hS hvalue name _).bind fun _ _ => ?_
  refine (within_combiner _ d.combine).bind fun _ _ => ?_
  refine (within_numbers hconstants _).bind fun _ _ => ?_
  refine OnlyFails.guard (fun _ => within_reject_of_none rfl) ?_
  refine (ImpliesRule.within_resolve name names d.implies).bind fun _ _ => ?_
  exact (within_settings hread hdisplay edgeSettings _).bind fun _ _ => OnlyFails.pure _

/-- **A node** fails over its values, its edges and its display settings. -/
theorem NodeDraft.within_resolve {d : NodeDraft} (h : ∀ v ∈ d.documents, S v)
    (properties nodes : List String) (id : String) : (d.resolve properties nodes id).Within S := by
  obtain ⟨hvalues, hrest⟩ := List.forall_mem_append.1 h
  obtain ⟨hedges, hdisplay⟩ := List.forall_mem_append.1 hrest
  unfold NodeDraft.resolve
  refine (within_numbers hvalues _).bind fun _ _ => ?_
  refine (EdgesDraft.within_resolve hS hedges _ properties nodes).bind fun _ _ => ?_
  exact (within_settings (within_expression hS) hdisplay nodeSettings _).bind fun _ _ =>
    OnlyFails.pure _

theorem DisplayDraft.within_resolve {d : DisplayDraft} (h : ∀ v ∈ d.documents, S v) :
    d.resolve.Within S := by
  obtain ⟨hnode, hrest⟩ := List.forall_mem_append.1 h
  obtain ⟨hedge, hcombiner⟩ := List.forall_mem_append.1 hrest
  have hread : ∀ {v}, S v → ∀ path, (expression path v).Within S := within_expression hS
  unfold DisplayDraft.resolve
  refine (within_settings hread hnode nodeSettings _).bind fun _ _ => ?_
  refine (within_settings hread hedge edgeSettings _).bind fun _ _ => ?_
  exact (within_settings hread hcombiner mergedEdgeSettings _).bind fun _ _ => OnlyFails.pure _

theorem ScenarioDraft.within_ownOverlay {d : ScenarioDraft} (h : ∀ v ∈ d.documents, S v)
    (name : String) : (d.ownOverlay name).Within S := by
  obtain ⟨hnodes, hroot⟩ := List.forall_mem_append.1 h
  unfold ScenarioDraft.ownOverlay
  refine OnlyFails.bind (OnlyFails.traverse fun _ t ht => ?_) fun _ _ => ?_
  · exact within_overrides hS (fun v hv => hnodes v (List.mem_flatMap.2 ⟨t, ht, hv⟩)) _
  · refine OnlyFails.ite (fun _ => OnlyFails.pure _) fun _ => ?_
    exact (within_overrides hS hroot _).bind fun _ _ => OnlyFails.pure _

/-- **Scenarios** fail over their overrides. -/
theorem within_resolveScenarios {drafts : Table ScenarioDraft}
    (h : ∀ v ∈ drafts.values.flatMap ScenarioDraft.documents, S v) :
    (resolveScenarios drafts).Within S := by
  unfold resolveScenarios
  refine OnlyFails.bind (OnlyFails.traverse fun name d hd => ?_) fun _ _ => ?_
  · refine ScenarioDraft.within_ownOverlay hS (fun v hv => ?_) name
    exact h v (List.mem_flatMap.2 ⟨d, hd, hv⟩)
  · refine (within_checkParents drafts drafts.entries).bind fun _ _ => ?_
    split
    · exact within_reject_of_none rfl
    · exact OnlyFails.pure _

end Drafts

/-- **Imports** are rejected over names only. -/
theorem Libraries.fails_visit (libraries : Libraries) (fuel : Nat) (chain order : List String)
    (name : String) :
    OnlyFails (fun e => e.value? = none) (libraries.visit fuel chain order name) := by
  induction fuel using Nat.strongRecOn generalizing chain order name with
  | ind fuel ih =>
    unfold visit
    refine OnlyFails.ite (fun _ => OnlyFails.ok _) fun _ => ?_
    refine OnlyFails.ite (fun _ => OnlyFails.error rfl) fun _ => ?_
    split
    · exact OnlyFails.error rfl
    · exact OnlyFails.error rfl
    · rename_i library fuel _
      refine OnlyFails.bind (OnlyFails.foldlM (fun order imported _ => ?_) order) fun _ _ =>
        OnlyFails.pure _
      exact ih fuel (by omega) (chain ++ [name]) order imported

theorem Libraries.within_importOrder (libraries : Libraries) (imports : List String) :
    Resolved.Within S ((libraries.importOrder imports).mapError .rejected) := by
  have himports : OnlyFails (fun e => e.value? = none) (libraries.importOrder imports) :=
    OnlyFails.foldlM (fun order name _ => libraries.fails_visit _ [] order name) []
  refine himports.mapError fun e he v hv => ?_
  rw [he] at hv
  cases hv

/-- **A draft** fails over its documents and those of its libraries. -/
theorem Draft.within_resolve (hS : Value.Hereditary S) {libraries : Libraries} {d : Draft}
    (hlibraries : ∀ v ∈ libraries.documents, S v) (hd : ∀ v ∈ d.documents, S v) :
    (d.resolve libraries).Within S := by
  unfold Draft.resolve
  refine (libraries.within_importOrder d.imports).bind fun names _ => ?_
  obtain ⟨hlast, hrest⟩ := List.forall_mem_append.1 hd
  obtain ⟨hnodes, hscenarios⟩ := List.forall_mem_append.1 hrest
  have hmerged : ∀ v ∈ (mergeBundles libraries names d.bundle).documents, S v := fun v hv =>
    (mem_documents_mergeBundles hv).elim (hlibraries v) (hlast v)
  dsimp only
  -- from here on it does not matter where a document of the merged bundle comes from
  generalize mergeBundles libraries names d.bundle = bundle at hmerged
  obtain ⟨hproperties, hbundle⟩ := List.forall_mem_append.1 hmerged
  obtain ⟨hroot, hdisplay⟩ := List.forall_mem_append.1 hbundle
  refine OnlyFails.bind (OnlyFails.traverse fun name p hp => ?_) fun properties _ => ?_
  · refine PropertyDraft.within_resolve hS (fun v hv => ?_) _ name
    exact hproperties v (List.mem_flatMap.2 ⟨p, hp, hv⟩)
  refine OnlyFails.bind (OnlyFails.traverse fun id n hn => ?_) fun _ _ => ?_
  · refine NodeDraft.within_resolve hS (fun v hv => ?_) _ _ id
    exact hnodes v (List.mem_flatMap.2 ⟨n, hn, hv⟩)
  refine (DisplayDraft.within_resolve hS hdisplay).bind fun _ _ => ?_
  refine (within_resolveScenarios hS hscenarios).bind fun _ _ => ?_
  exact (Resolved.within_numbers hroot "root").bind fun _ _ => OnlyFails.pure _

/-- **Putting a failure into words** blames no other document. -/
theorem DraftFailure.exists_faulty_of_worded (hS : Value.Hereditary S) {x : Resolved α}
    (hx : x.Within S) {f : NumericFault} (h : x.mapError worded = .error (.numeric f)) :
    ∃ w, S w ∧ w.Faulty f := by
  cases x with
  | ok a => cases h
  | error failure =>
    have hworded : failure.worded = .numeric f := Except.error.inj h
    cases failure with
    | numeric fault =>
      obtain rfl := DraftFailure.numeric.inj hworded
      exact hx _ rfl
    | rejected error =>
      -- an error that cannot be written has a document with an integer that cannot
      by_cases hwritable : error.value?.all Value.isWritable
      · rw [worded, if_pos hwritable] at hworded
        cases hworded
      · rw [worded, if_neg hwritable] at hworded
        obtain rfl := DraftFailure.numeric.inj hworded
        cases hv : error.value? with
        | none =>
          rw [hv] at hwritable
          exact absurd rfl hwritable
        | some v =>
          have hw : v.isWritable = false := by simpa [hv] using hwritable
          obtain ⟨w, hpart, hfaulty⟩ := v.exists_unwritable hw
          exact ⟨w, hS (hx _ rfl v hv hw) hpart, hfaulty⟩

/-! ## Documents without faults -/

namespace Value

variable {fields : List (String × Value)}

/-- **A document without faults,** in whichever of its parts. -/
def Sound (v : Value) : Prop := ∀ (w : Value) (f : NumericFault), w.PartOf v → ¬ w.Faulty f

/-- An integer that has a double and can be written. -/
theorem sound_int {n : Int} {x : Float} (h : ofInt n = .ok x) (hw : (int n).isWritable = true) :
    (int n).Sound := by
  intro w f hpart hf
  cases hpart
  cases hf with
  | integer herror => cases h.symm.trans herror
  | unwritable hnot => cases hw.symm.trans hnot

/-- Leaves that are no integers. -/
theorem sound_leaf : (∀ x, (float x).Sound) ∧ (∀ b, (bool b).Sound) ∧ ∀ s, (text s).Sound := by
  refine ⟨fun _ w f hpart hf => ?_, fun _ w f hpart hf => ?_, fun _ w f hpart hf => ?_⟩ <;>
  · cases hpart
    cases hf

/-- An object whose color, if it has one, can be read. -/
theorem sound_object (h : ∀ e ∈ fields, e.2.Sound)
    (hcolor : ∀ text, fields.lookup "color" = some (.text text) → ∃ c, Color.ofText text = .ok c) :
    (object fields).Sound := by
  intro w f hw hf
  cases hw with
  | field hv hpart => exact h _ hv w f hpart hf
  | self =>
    cases hf with
    | channel htext herror _ =>
      obtain ⟨c, hc⟩ := hcolor _ htext
      cases hc.symm.trans herror
    | packing htext hc herror =>
      obtain ⟨packed, hpack⟩ := Color.exists_pack_of_ofText hc
      cases hpack.symm.trans herror

end Value

namespace Libraries

theorem sound_writtenColor {t : String} {c : Color} (h : Color.ofText t = .ok c) :
    (writtenColor t).Sound := by
  refine Value.sound_object (fun e he => ?_) fun text htext => ?_
  · obtain rfl := List.mem_singleton.1 he
    exact Value.sound_leaf.2.2 t
  · obtain rfl : t = text := by simpa using htext
    exact ⟨c, h⟩

/-- **The core library has no faults.** -/
theorem sound_standard {u : Value} (hu : u ∈ standard.documents) : u.Sound := by
  have hall : standard.documents = [.int 6, writtenColor "#333", .float 1.0, .int 0,
    writtenColor "#333", .float 1.0, .float 1.5, writtenColor "#555", .float 0.4, .bool false,
    .object [("combine", .text "sum"), ("value", .text "input")], writtenColor "#555",
    .float 0.4] := rfl
  have hsix : (Value.int 6).Sound := Value.sound_int rfl (by decide +kernel)
  have hzero : (Value.int 0).Sound := Value.sound_int rfl (by decide +kernel)
  have hdark : (writtenColor "#333").Sound := sound_writtenColor rfl
  have hlight : (writtenColor "#555").Sound := sound_writtenColor rfl
  obtain ⟨hfloat, hbool, htexts⟩ := Value.sound_leaf
  have hsum : (Value.object [("combine", .text "sum"), ("value", .text "input")]).Sound := by
    refine Value.sound_object (fun e he => ?_) fun text htext => by cases htext
    simp only [List.mem_cons, List.not_mem_nil, or_false] at he
    rcases he with rfl | rfl <;> exact htexts _
  rw [hall] at hu
  simp only [List.mem_cons, List.not_mem_nil, or_false] at hu
  rcases hu with rfl | rfl | rfl | rfl | rfl | rfl | rfl | rfl | rfl | rfl | rfl | rfl | rfl
  all_goals first | assumption | exact hfloat _ | exact hbool _

end Libraries

/-! ## Documents -/

namespace Definition

variable {libraries : Libraries} {v : Value}

/-- Where the shape is right, it is the draft that is read. -/
theorem ofDocument_of_check {d : Draft} (h : Draft.check v = .valid d) :
    ofDocument libraries v = (d.resolve libraries).mapError DraftFailure.worded := by
  unfold ofDocument
  split
  · cases h
  · rw [h]

/-- Only drafts have faults. -/
theorem exists_draft_of_fault {f : NumericFault}
    (h : ofDocument libraries v = .error (.numeric f)) :
    ∃ d, Draft.check v = .valid d := by
  unfold ofDocument at h
  split at h
  · cases h
  · split at h
    · rename_i d hcheck
      exact ⟨d, hcheck⟩
    · cases h

/-- A faulty part of a document of libraries that were built is a part of what they were built
from. -/
theorem partOf_of_faulty {objects : List (List (String × Value))} {u w : Value} {f : NumericFault}
    (hbuild : Libraries.build objects = .ok libraries) (hu : u ∈ libraries.documents)
    (hpart : w.PartOf u) (hf : w.Faulty f) : ∃ fields ∈ objects, w.PartOf (.object fields) := by
  rcases Libraries.partOf_of_build hbuild hu with hcore | ⟨fields, hfields, hpart'⟩
  · exact absurd hf (Libraries.sound_standard hcore w f hpart)
  · exact ⟨fields, hfields, hpart.trans hpart'⟩

/-- **A document becomes a definition or is rejected with an error, or a part is to blame:** a part
of the document, or of a document of a library, that has no answer. If the libraries were built, it
is a part of the document or of an object that they were built from, since the core library has no
faults. -/
theorem ofDocument_rejects_or_faults (libraries : Libraries) (v : Value) :
    (∃ d, ofDocument libraries v = .ok d) ∨ (∃ e, ofDocument libraries v = .error (.rejected e)) ∨
      ∃ f, ∃ w : Value, ofDocument libraries v = .error (.numeric f) ∧ w.Faulty f ∧
        (∃ u, (u = v ∨ u ∈ libraries.documents) ∧ w.PartOf u) ∧
        ∀ objects, Libraries.build objects = .ok libraries →
          w.PartOf v ∨ ∃ fields ∈ objects, w.PartOf (.object fields) := by
  cases hres : ofDocument libraries v with
  | ok d => exact Or.inl ⟨d, rfl⟩
  | error failure =>
    refine Or.inr ?_
    cases failure with
    | rejected e => exact Or.inl ⟨e, rfl⟩
    | numeric f =>
      -- the parts of the document and of the libraries are what a draft can fail over
      let S : Value → Prop := fun w => ∃ u, (u = v ∨ u ∈ libraries.documents) ∧ w.PartOf u
      have hS : Value.Hereditary S := fun ⟨u, hu, hw⟩ hx => ⟨u, hu, hx.trans hw⟩
      obtain ⟨d, hcheck⟩ := exists_draft_of_fault hres
      have hd : ∀ w ∈ d.documents, S w := fun w hw =>
        ⟨v, Or.inl rfl, Draft.partOf_of_check hcheck w hw⟩
      have hlibraries : ∀ w ∈ libraries.documents, S w := fun w hw => ⟨w, Or.inr hw, .self⟩
      have hresolve : (d.resolve libraries).Within S := Draft.within_resolve hS hlibraries hd
      rw [ofDocument_of_check hcheck] at hres
      obtain ⟨w, ⟨u, hu, hpart⟩, hfaulty⟩ := DraftFailure.exists_faulty_of_worded hS hresolve hres
      refine Or.inr ⟨f, w, rfl, hfaulty, ⟨u, hu, hpart⟩, fun objects hbuild => ?_⟩
      rcases hu with rfl | hu
      · exact Or.inl hpart
      · exact Or.inr (partOf_of_faulty hbuild hu hpart hfaulty)

section OneValue

variable (id property : String)

/-- A document with one node and one value of it. -/
def oneValue (v : Value) : Value :=
  .object [("version", .int 1),
    ("nodes", .object [(id, .object [("values", .object [(property, v)])])])]

/-- The draft of a document with one value. -/
def oneValueDraft (v : Value) : Draft where
  version := 1
  description := ""
  imports := []
  bundle := {}
  nodes := .ofList [(id,
    { description := "", displayName := "", values := .ofList [(property, v)], edges := .listed [],
      tags := [], display := ∅ })]
  scenarios := ∅

variable {failure : DraftFailure}

/-- **A value that cannot be read** ends the reading of its document. -/
theorem ofDocument_oneValue
    (h : Resolved.number ("nodes." ++ id ++ ".values" ++ "." ++ property) v = .error failure) :
    ofDocument .standard (oneValue id property v) = .error failure.worded := by
  have hcheck : Draft.check (oneValue id property v) = .valid (oneValueDraft id property v) := rfl
  have hvalues : Resolved.numbers ("nodes." ++ id ++ ".values") (.ofList [(property, v)]) =
      .error failure := traverse_of_error rfl h
  have hnodes (properties nodes : List String) :
      (oneValueDraft id property v).nodes.traverse (NodeDraft.resolve properties nodes) =
        .error failure := traverse_of_error rfl (bind_of_error hvalues _)
  have hresolve : (oneValueDraft id property v).resolve .standard = .error failure :=
    bind_of_error (hnodes [] [id]) _
  rw [ofDocument_of_check hcheck, hresolve]
  rfl

/-- **An integer beyond the doubles** ends the reading of the document. -/
theorem ofDocument_oneValue_of_ofInt {n : Int} {f : NumericFault} (h : ofInt n = .error f) :
    ofDocument .standard (oneValue id property (.int n)) = .error (.numeric f) := by
  have hnumber (path : String) : Resolved.number path (.int n) = .error (.numeric f) := by
    rw [Resolved.number, Value.leafNumber, h]
    rfl
  exact ofDocument_oneValue id property (hnumber _)

/-- **A value that no message can write,** where a number should be, ends the reading, too. -/
theorem ofDocument_oneValue_of_isWritable (hv : v.leafNumber = .ok none)
    (hw : v.isWritable = false) :
    ofDocument .standard (oneValue id property v) = .error (.numeric .unwritableInteger) := by
  have hnumber (path : String) :
      Resolved.number path v = .error (.rejected (.notNumber path v)) := by
    rw [Resolved.number, hv]
    rfl
  rw [ofDocument_oneValue id property (hnumber _), DraftFailure.worded, DefinitionError.value?,
    Option.all_some, hw]
  rfl

end OneValue

/-- **The depth of a lake is neither read nor rejected** if it is an integer beyond the doubles, or a
list with an integer that no message can write. -/
theorem ofDocument_depth_of_lake :
    Libraries.build [] = .ok .standard ∧
      ofDocument .standard (oneValue "lake" "depth" (.int (10 ^ 400))) =
        .error (.numeric .integerTooLarge) ∧
      ofDocument .standard (oneValue "lake" "depth" (.list [.int (Int.ofNat (Nat.pow 10 4300))])) =
        .error (.numeric .unwritableInteger) := by
  have hlarge : ofInt (10 ^ 400) = .error .integerTooLarge := by
    rw [ofInt, if_pos (by decide +kernel)]
  exact ⟨rfl, ofDocument_oneValue_of_ofInt "lake" "depth" hlarge,
    ofDocument_oneValue_of_isWritable "lake" "depth" rfl (by decide +kernel)⟩

end Definition

end ValuedGraph
