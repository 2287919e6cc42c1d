import ValuedGraph.Definition.Resolution
import ValuedGraph.Proofs.Document.Parts

/-!
# What drafts hold

A draft holds documents: expressions and numbers that are not read yet, and edges. All of them are
parts of the document that was checked, and merging bundles adds nothing to them.

* `Draft.documents`, `Bundle.documents`, `Libraries.documents`: **the documents of drafts and of
  libraries.**
* `Check.Holds`: checks whose values hold parts of what they check.
* `Draft.partOf_of_check`: **a draft holds parts of its document.**
* `mem_documents_mergeBundles`: merging bundles adds nothing.
* `Libraries.partOf_of_build`: **libraries hold parts of the objects they are built from.**
-/

namespace ValuedGraph

section Documents

def PropertyDraft.documents (d : PropertyDraft) : List Value :=
  d.value :: (d.constants.values ++ d.display.values)

def DisplayDraft.documents (d : DisplayDraft) : List Value :=
  d.node.values ++ (d.edge.values ++ d.edgeCombiner.values)

def EdgesDraft.documents : EdgesDraft → List Value
  | listed items => items
  | keyed groups => groups.map Prod.snd

def NodeDraft.documents (d : NodeDraft) : List Value :=
  d.values.values ++ (d.edges.documents ++ d.display.values)

def ScenarioDraft.documents (d : ScenarioDraft) : List Value :=
  d.nodes.values.flatMap Table.values ++ d.root.values

/-- **The documents of a bundle.** Tags have none. -/
def Bundle.documents (b : Bundle) : List Value :=
  b.properties.values.flatMap PropertyDraft.documents ++ (b.root.values ++ b.display.documents)

/-- **The documents of libraries.** -/
def Libraries.documents (libraries : Libraries) : List Value :=
  libraries.values.flatMap fun library => library.bundle.documents

/-- **The documents of a draft.** -/
def Draft.documents (d : Draft) : List Value :=
  d.bundle.documents ++
    (d.nodes.values.flatMap NodeDraft.documents ++
      d.scenarios.values.flatMap ScenarioDraft.documents)

end Documents

namespace Table

variable {α : Type} {t u : Table α} {a : α}

theorem mem_values_insert {k : String} {b : α} (h : a ∈ (t.insert k b).values) :
    a = b ∨ a ∈ t.values := by
  obtain ⟨j, hj⟩ := mem_values.1 h
  rw [get?_insert] at hj
  split at hj
  · exact Or.inl (Option.some.inj hj).symm
  · exact Or.inr (mem_values.2 ⟨j, hj⟩)

theorem mem_values_insertAll {l : List (String × α)} (h : a ∈ (t.insertAll l).values) :
    a ∈ t.values ∨ ∃ e ∈ l, a = e.2 := by
  induction l generalizing t with
  | nil => exact Or.inl h
  | cons e l ih =>
    rcases ih h with ht | ⟨e', he', rfl⟩
    · rcases mem_values_insert ht with rfl | ht
      · exact Or.inr ⟨e, by simp, rfl⟩
      · exact Or.inl ht
    · exact Or.inr ⟨e', by simp [he'], rfl⟩

theorem mem_values_ofList {l : List (String × α)} (h : a ∈ (ofList l).values) : ∃ e ∈ l, a = e.2 :=
  (mem_values_insertAll h).resolve_left (by simp [values, empty])

/-- The values of an overlaid table are values of one of the two. -/
theorem mem_values_overlay (h : a ∈ (t.overlay u).values) : a ∈ t.values ∨ a ∈ u.values := by
  refine (mem_values_insertAll h).imp_right ?_
  rintro ⟨e, he, rfl⟩
  exact List.mem_map.2 ⟨e, he, rfl⟩

end Table

theorem Checked.eq_valid_of_value? {α : Type} {x : Checked α} {a : α} (h : x.value? = some a) :
    x = .valid a := by
  cases x with
  | valid b => exact congrArg Checked.valid (Option.some.inj h)
  | invalid ps => cases h

/-- A check that comes to values with a property only. -/
def Checked.Gives {α : Type} (P : α → Prop) (x : Checked α) : Prop := ∀ a, x = .valid a → P a

namespace Checked.Gives

variable {α β : Type} {P : β → Prop} {Q : α → Prop} {x : Checked α}

theorem pure {a : α} (h : Q a) : Gives Q (Pure.pure a : Checked α) := by
  intro b hb
  cases hb
  exact h

theorem invalid (ps : List Problem) : Gives Q (.invalid ps : Checked α) := by
  intro a ha
  cases ha

theorem mono {Q' : α → Prop} (hx : Gives Q x) (h : ∀ a, Q a → Q' a) : Gives Q' x :=
  fun a ha => h a (hx a ha)

theorem map {f : α → β} (hf : ∀ a, Q a → P (f a)) (hx : Gives Q x) : Gives P (f <$> x) := by
  intro b hb
  cases x with
  | valid a =>
    obtain rfl : f a = b := by simpa [Functor.map, Checked.map] using hb
    exact hf a (hx a rfl)
  | invalid ps => cases hb

/-- Two checks side by side. -/
theorem seq {f : Checked (α → β)} (hf : Gives (fun g => ∀ a, Q a → P (g a)) f) (hx : Gives Q x) :
    Gives P (f <*> x) := by
  intro b hb
  cases f with
  | invalid ps => cases x <;> cases hb
  | valid g =>
    cases x with
    | invalid ps => cases hb
    | valid a =>
      obtain rfl : g a = b := by simpa [Seq.seq, Checked.seq] using hb
      exact hf g rfl a (hx a rfl)

/-- A check beside one that always comes to the property. -/
theorem skip {f : Checked (α → β)} (hf : Gives (fun g => ∀ a, P (g a)) f) : Gives P (f <*> x) :=
  seq (Q := fun _ => True) (hf.mono fun _ hg a _ => hg a) fun _ _ => trivial

theorem all {f : α → Checked β} {l : List α} (h : ∀ a ∈ l, Gives P (f a)) :
    Gives (fun bs => ∀ b ∈ bs, P b) (Checked.all f l) := by
  induction l with
  | nil => exact pure (by simp)
  | cons a l ih =>
    refine (map (fun b hb bs hbs => ?_) (h a (by simp))).seq (ih fun c hc => h c (by simp [hc]))
    simpa using ⟨hb, hbs⟩

end Checked.Gives

namespace Check

variable {α : Type} {c : Check α} {documents : α → List Value}

/-- **A check whose values hold parts of what is checked.** -/
def Holds (documents : α → List Value) (c : Check α) : Prop :=
  ∀ location v, (c location v).Gives fun a => ∀ w ∈ documents a, w.PartOf v

theorem holds_nothing (c : Check α) : c.Holds fun _ => [] := by
  intro _ _ _ _ w hw
  cases hw

theorem holds_any : any.Holds fun v => [v] := by
  intro location v
  refine Checked.Gives.pure fun w hw => ?_
  rw [List.mem_singleton.1 hw]
  exact .self

theorem holds_listOf (hc : c.Holds documents) : (listOf c).Holds fun l => l.flatMap documents := by
  intro location v
  cases v with
  | list items =>
    have hall : (listOf c location (.list items)).Gives
        fun l => ∀ a ∈ l, ∀ w ∈ documents a, w.PartOf (.list items) :=
      Checked.Gives.all fun e he a ha w hw =>
        .item (List.fst_mem_of_mem_zipIdx he) (hc _ e.1 a ha w hw)
    refine hall.mono fun l hl w hw => ?_
    obtain ⟨a, ha, hw⟩ := List.mem_flatMap.1 hw
    exact hl a ha w hw
  | null | bool _ | int _ | float _ | text _ | moment _ | object _ => exact Checked.Gives.invalid _

theorem holds_tableOf (hc : c.Holds documents) :
    (tableOf c).Holds fun t => t.values.flatMap documents := by
  intro location v
  cases v with
  | object fields =>
    refine Checked.Gives.map (Q := fun l => ∀ e ∈ l, ∀ w ∈ documents e.2, w.PartOf (.object fields))
      (fun l hl w hw => ?_) (Checked.Gives.all fun e he => ?_)
    · obtain ⟨a, ha, hw⟩ := List.mem_flatMap.1 hw
      obtain ⟨e, he, rfl⟩ := Table.mem_values_ofList ha
      exact hl e he w hw
    · refine Checked.Gives.map (fun a ha => ha) (?_ : (c (location ++ [e.1]) e.2).Gives _)
      exact fun a ha w hw => .field he (hc _ e.2 a ha w hw)
  | null | bool _ | int _ | float _ | text _ | moment _ | list _ => exact Checked.Gives.invalid _

theorem holds_tableOf_any : (tableOf any).Holds Table.values := by
  have h := holds_tableOf holds_any
  simpa only [List.flatMap_singleton'] using h

theorem holds_nullable (hc : c.Holds documents) :
    (nullable c).Holds fun o => o.elim [] documents := by
  intro location v
  unfold nullable
  split
  · exact Checked.Gives.pure (by simp)
  · exact (hc location v).map fun a ha => ha

/-- An alternative that accepts. -/
theorem holds_oneOf {alternatives : List (String × Check α)}
    (h : ∀ e ∈ alternatives, e.2.Holds documents) : (oneOf alternatives).Holds documents := by
  intro location v
  unfold oneOf
  split
  · rename_i a ha
    obtain ⟨e, he, hvalue⟩ := List.exists_of_findSome?_eq_some ha
    exact Checked.Gives.pure (h e he _ v a (Checked.eq_valid_of_value? hvalue))
  · exact Checked.Gives.invalid _

end Check

namespace Record

variable {α : Type} {c : Check α} {documents : α → List Value} {r : Record} {name : String}

/-- A reading of a record whose values hold parts of it. -/
def Holds (r : Record) (documents : α → List Value) (x : Checked α) : Prop :=
  x.Gives fun a => ∀ w ∈ documents a, w.PartOf (.object r.fields)

theorem partOf_of_value? {v : Value} (h : r.value? name = some v) :
    v.PartOf (.object r.fields) := by
  rw [Record.value?, Option.orElse_eq_orElse, Option.orElse_eq_or] at h
  rcases Option.or_eq_some_iff.1 h with h | ⟨-, h⟩
  · exact .of_lookup h
  · exact .of_lookup h

theorem holds_optional (hc : c.Holds documents) {absent : α} (habsent : documents absent = []) :
    r.Holds documents (r.optional name absent c) := by
  unfold Record.optional
  split
  · rename_i v hv
    exact (hc _ v).mono fun a ha w hw => (ha w hw).trans (partOf_of_value? hv)
  · exact Checked.Gives.pure (by simp [habsent])

theorem holds_required (hc : c.Holds documents) : r.Holds documents (r.required name c) := by
  unfold Record.required
  split
  · rename_i v hv
    exact (hc _ v).mono fun a ha w hw => (ha w hw).trans (partOf_of_value? hv)
  · exact Checked.Gives.invalid _

end Record

namespace Check

variable {α : Type} {documents : α → List Value}

theorem holds_model {names : List String} {read : Record → Checked α}
    (h : ∀ r : Record, r.Holds documents (read r)) : (model names read).Holds documents := by
  intro location v
  cases v with
  | object fields =>
    exact ((h ⟨fields, location⟩).map fun a ha _ => ha).skip
  | null | bool _ | int _ | float _ | text _ | moment _ | list _ => exact Checked.Gives.invalid _

theorem holds_property : property.Holds PropertyDraft.documents := by
  refine holds_model fun r => ?_
  -- the value, the constants and the display settings; the other fields hold no documents
  refine (Checked.Gives.map ?_ (Record.holds_required holds_any)).skip.skip.skip.skip.skip.skip
    |>.seq (Record.holds_optional holds_tableOf_any rfl) |>.skip.skip.skip
    |>.seq (Record.holds_optional holds_tableOf_any rfl)
  intro value hvalue _ _ _ _ _ _ constants hconstants _ _ _ display hdisplay
  have htables := List.forall_mem_append.2 ⟨hconstants, hdisplay⟩
  exact List.forall_mem_cons.2 ⟨hvalue value (by simp), htables⟩

theorem holds_display : display.Holds DisplayDraft.documents := by
  refine holds_model fun r => ?_
  have htable (name : String) : r.Holds Table.values (r.optional name ∅ (tableOf any)) :=
    Record.holds_optional holds_tableOf_any rfl
  refine ((Checked.Gives.map ?_ (htable "node")).seq (htable "edge")).seq (htable "edgeCombiner")
  intro node hnode edge hedge edgeCombiner hcombiner
  exact List.forall_mem_append.2 ⟨hnode, List.forall_mem_append.2 ⟨hedge, hcombiner⟩⟩

theorem holds_object : object.Holds fun v => [v] := by
  intro location v
  cases v with
  | object fields => exact Checked.Gives.pure fun w hw => List.mem_singleton.1 hw ▸ .self
  | null | bool _ | int _ | float _ | text _ | moment _ | list _ => exact Checked.Gives.invalid _

theorem holds_edgeGroups : edgeGroups.Holds EdgesDraft.documents := by
  intro location v
  cases v with
  | object fields =>
    refine Checked.Gives.pure fun w hw => ?_
    obtain ⟨e, he, rfl⟩ := List.mem_map.1 hw
    exact .field he .self
  | null | bool _ | int _ | float _ | text _ | moment _ | list _ => exact Checked.Gives.invalid _

/-- **Edges,** listed or keyed. -/
theorem holds_edges : edges.Holds EdgesDraft.documents := by
  have hlisted : (listOf object).Holds fun items => items := by
    simpa only [List.flatMap_singleton'] using holds_listOf holds_object
  refine holds_oneOf fun e he => ?_
  simp only [List.mem_cons, List.not_mem_nil, or_false] at he
  rcases he with rfl | rfl
  · exact fun location v => (hlisted _ v).map fun items hitems => hitems
  · exact holds_edgeGroups

theorem holds_node : node.Holds NodeDraft.documents := by
  refine holds_model fun r => ?_
  have htable (name : String) : r.Holds Table.values (r.optional name ∅ (tableOf any)) :=
    Record.holds_optional holds_tableOf_any rfl
  have hedges : r.Holds EdgesDraft.documents
      ((fun e => Option.getD e (.listed [])) <$> r.optional "edges" none (nullable edges)) := by
    refine (r.holds_optional (holds_nullable holds_edges) rfl).map fun e he => ?_
    cases e with
    | none => simp [EdgesDraft.documents]
    | some d => exact he
  refine (Checked.Gives.map ?_ (Record.holds_optional (holds_nothing _) rfl)).skip
    |>.seq (htable "values") |>.seq hedges |>.skip |>.seq (htable "display")
  intro _ _ _ values hvalues edges hedges _ display hdisplay
  exact List.forall_mem_append.2 ⟨hvalues, List.forall_mem_append.2 ⟨hedges, hdisplay⟩⟩

theorem holds_scenario : scenario.Holds ScenarioDraft.documents := by
  refine holds_model fun r => ?_
  refine (Checked.Gives.map ?_ (Record.holds_optional (holds_nothing _) rfl)).skip
    |>.seq (Record.holds_optional (holds_tableOf holds_tableOf_any) rfl)
    |>.seq (Record.holds_optional holds_tableOf_any rfl)
  intro _ _ _ nodes hnodes root hroot
  exact List.forall_mem_append.2 ⟨hnodes, hroot⟩

theorem holds_bundle (r : Record) : r.Holds Bundle.documents (bundle r) := by
  refine Checked.Gives.map ?_ (Record.holds_optional (holds_tableOf holds_property) rfl)
    |>.seq (Record.holds_optional holds_tableOf_any rfl) |>.skip
    |>.seq (Record.holds_optional holds_display rfl)
  intro properties hproperties root hroot _ display hdisplay
  exact List.forall_mem_append.2 ⟨hproperties, List.forall_mem_append.2 ⟨hroot, hdisplay⟩⟩

theorem holds_draft : draft.Holds Draft.documents := by
  refine holds_model fun r => ?_
  refine (Checked.Gives.map ?_ (Record.holds_required (holds_nothing _))).skip.skip
    |>.seq (holds_bundle r)
    |>.seq (Record.holds_required (holds_tableOf holds_node))
    |>.seq (Record.holds_optional (holds_tableOf holds_scenario) rfl)
  intro _ _ _ _ bundle hbundle nodes hnodes scenarios hscenarios
  exact List.forall_mem_append.2 ⟨hbundle, List.forall_mem_append.2 ⟨hnodes, hscenarios⟩⟩

theorem holds_library : library.Holds fun l => l.bundle.documents := by
  refine holds_model fun r => ?_
  refine (Checked.Gives.map ?_ (Record.holds_optional (holds_nothing _) rfl)).skip
    |>.seq (holds_bundle r)
  intro _ _ _ bundle hbundle
  exact hbundle

end Check

/-- **A draft holds parts of its document.** -/
theorem Draft.partOf_of_check {v : Value} {d : Draft} (h : Draft.check v = .valid d) :
    ∀ w ∈ d.documents, w.PartOf v := Check.holds_draft [] v d h

section Merging

variable {w : Value}

theorem DisplayDraft.mem_documents_overlay {a b : DisplayDraft} (h : w ∈ (a.overlay b).documents) :
    w ∈ a.documents ∨ w ∈ b.documents := by
  unfold DisplayDraft.documents at h ⊢
  simp only [List.mem_append] at h ⊢
  rcases h with h | h | h
  all_goals rcases Table.mem_values_overlay h with h | h <;> simp [h]

/-- **An overlaid bundle holds nothing new.** -/
theorem Bundle.mem_documents_overlay {a b : Bundle} (h : w ∈ (a.overlay b).documents) :
    w ∈ a.documents ∨ w ∈ b.documents := by
  unfold Bundle.documents at h ⊢
  simp only [List.mem_append] at h ⊢
  rcases h with h | h | h
  · obtain ⟨d, hd, hw⟩ := List.mem_flatMap.1 h
    rcases Table.mem_values_overlay hd with hd | hd
    · exact Or.inl (Or.inl (List.mem_flatMap.2 ⟨d, hd, hw⟩))
    · exact Or.inr (Or.inl (List.mem_flatMap.2 ⟨d, hd, hw⟩))
  · rcases Table.mem_values_overlay h with h | h <;> simp [h]
  · rcases DisplayDraft.mem_documents_overlay h with h | h <;> simp [h]

theorem Bundle.mem_documents_foldl {bundles : List Bundle} {b : Bundle}
    (h : w ∈ (bundles.foldl Bundle.overlay b).documents) :
    w ∈ b.documents ∨ ∃ c ∈ bundles, w ∈ c.documents := by
  induction bundles generalizing b with
  | nil => exact Or.inl h
  | cons c rest ih =>
    rcases ih h with hbc | ⟨d, hd, hw⟩
    · exact (Bundle.mem_documents_overlay hbc).imp_right fun hw => ⟨c, by simp, hw⟩
    · exact Or.inr ⟨d, by simp [hd], hw⟩

/-- **Merging adds nothing** to the documents of the libraries and of the last bundle. -/
theorem mem_documents_mergeBundles {libraries : Libraries} {names : List String} {last : Bundle}
    (h : w ∈ (mergeBundles libraries names last).documents) :
    w ∈ libraries.documents ∨ w ∈ last.documents := by
  rcases Bundle.mem_documents_foldl h with hempty | ⟨c, hc, hw⟩
  · cases hempty
  · rcases List.mem_append.1 hc with hc | hc
    · obtain ⟨library, hlibrary, rfl⟩ := List.mem_map.1 hc
      obtain ⟨name, -, hname⟩ := List.mem_filterMap.1 hlibrary
      exact Or.inl (List.mem_flatMap.2 ⟨library, Table.mem_values.2 ⟨name, hname⟩, hw⟩)
    · exact Or.inr (List.mem_singleton.1 hc ▸ hw)

end Merging

namespace Libraries

variable {libraries libraries' : Libraries} {w : Value}

/-- What a library is added to, and what it is read from. -/
theorem partOf_of_add {fields : List (String × Value)} (h : libraries.add fields = .ok libraries')
    (hw : w ∈ libraries'.documents) :
    w ∈ libraries.documents ∨ ∃ e ∈ fields, w.PartOf e.2 := by
  induction fields generalizing libraries with
  | nil =>
    obtain rfl := Except.ok.inj h
    exact Or.inl hw
  | cons e rest ih =>
    unfold add at h
    split at h
    · rename_i library hcheck
      rcases ih h with hmem | ⟨e', he', hpart⟩
      · obtain ⟨l, hl, hdoc⟩ := List.mem_flatMap.1 hmem
        rcases Table.mem_values_insert hl with rfl | hl
        · exact Or.inr ⟨e, by simp, Check.holds_library [] e.2 l hcheck w hdoc⟩
        · exact Or.inl (List.mem_flatMap.2 ⟨l, hl, hdoc⟩)
      · exact Or.inr ⟨e', by simp [he'], hpart⟩
    · cases h

theorem partOf_of_foldlM {objects : List (List (String × Value))} {start : Libraries}
    (h : objects.foldlM add start = .ok libraries) (hw : w ∈ libraries.documents) :
    w ∈ start.documents ∨ ∃ fields ∈ objects, w.PartOf (.object fields) := by
  induction objects generalizing start with
  | nil =>
    obtain rfl : start = libraries := Except.ok.inj h
    exact Or.inl hw
  | cons fields rest ih =>
    rw [List.foldlM_cons] at h
    cases hadd : start.add fields with
    | error e =>
      rw [hadd] at h
      cases h
    | ok next =>
      rw [hadd] at h
      rcases ih h with hnext | ⟨fields', hmem, hpart⟩
      · rcases partOf_of_add hadd hnext with hstart | ⟨e, he, hpart⟩
        · exact Or.inl hstart
        · exact Or.inr ⟨fields, by simp, .field he hpart⟩
      · exact Or.inr ⟨fields', by simp [hmem], hpart⟩

/-- **Libraries hold parts of the objects they are built from,** beside the core library. -/
theorem partOf_of_build {objects : List (List (String × Value))} (h : build objects = .ok libraries)
    (hw : w ∈ libraries.documents) :
    w ∈ standard.documents ∨ ∃ fields ∈ objects, w.PartOf (.object fields) :=
  partOf_of_foldlM h hw

end Libraries

end ValuedGraph
