import ValuedGraph.Definition.Edges
import ValuedGraph.Proofs.Succeeding
import ValuedGraph.Proofs.Levels

/-!
# The edges that documents mean

Every way to write edges puts each of them at a place, which may say what their type or their ref
is. What an edge is depends on its place and its fields only.

* `EdgePlace.Denotes`, `EdgePlace.edge_ok`: **the edge that a document denotes at a place.**
* `EdgesDraft.placed`: the places of all edges, `EdgesDraft.keyed_ok`: what keyed edges denote.
* `EdgesDraft.listed_listing`: places may as well be written into the fields of a list.
* `EdgesDraft.resolve_transposed`: the two keys above an edge may change places if they are of
  different kinds.
* `EdgesDraft.syntaxes_agree`: **all ways to write edges agree.**
-/

namespace ValuedGraph

/-- The numbers that documents stand for. -/
theorem Resolved.number_ok {path : String} {v : Value} {x : Float} :
    number path v = .ok x ↔ v.leafNumber = .ok (some x) := by
  unfold number
  split <;> simp_all [reject]

namespace EdgePlace

section Fields

/-- The fields of an edge besides type and ref. -/
def otherFields (fields : List (String × Value)) : List (String × Value) :=
  fields.filter fun e => e.1 ≠ "type" ∧ e.1 ≠ "ref"

/-- A constant is the number of a field with a free name. -/
structure ConstantOf (field : String × Value) (c : String × Float) : Prop where
  name : c.1 = field.1
  free : field.1 ∉ reservedFields
  number : field.2.leafNumber = .ok (some c.2)

/-- **How a ref is written.** The root is nothing, null, or the empty text. -/
inductive RefOf : Option Value → Option String → Prop where
  | absent : RefOf none none
  | null : RefOf (some .null) none
  | root : RefOf (some (.text "")) none
  | node (s : String) (h : s ≠ "") : RefOf (some (.text s)) (some s)

/-- **What the fields of an edge say at a place.** -/
structure Reads (p : EdgePlace) (fields : List (String × Value)) (e : Edge) : Prop where
  type : fieldValue p.type (fields.lookup "type") = some (.text e.type)
  type_ne : e.type ≠ ""
  type_agrees : contradicts p.type (fieldValue p.type (fields.lookup "type")) = false
  ref : RefOf (fieldValue p.ref (fields.lookup "ref")) e.ref
  ref_agrees : contradicts p.ref (fieldValue p.ref (fields.lookup "ref")) = false
  constants : ∃ l, List.Forall₂ ConstantOf (otherFields fields) l ∧ e.constants = .ofList l

/-- **The edge that a document denotes at a place.** -/
def Denotes (p : EdgePlace) : Value → Edge → Prop
  | .object fields, e => p.Reads fields e
  | _, _ => False

variable {p : EdgePlace} {path key : String} {fields : List (String × Value)} {v : Value} {e : Edge}

theorem constants_ok {l : List (String × Float)} :
    constants path fields = .ok l ↔ List.Forall₂ ConstantOf (otherFields fields) l := by
  induction fields generalizing l with
  | nil => cases l <;> simp [constants, otherFields]
  | cons field rest ih =>
    obtain ⟨key, v⟩ := field
    unfold constants
    by_cases hplace : key = "type" || key = "ref"
    · rw [if_pos hplace, ih, otherFields, otherFields, List.filter_cons_of_neg]
      simpa [Decidable.or_iff_not_imp_left] using hplace
    · rw [if_neg hplace, otherFields, List.filter_cons_of_pos (by simpa using hplace)]
      by_cases hreserved : reservedFields.contains key
      · rw [if_pos hreserved]
        constructor
        · intro h
          cases h
        · rintro (_ | ⟨hfield, -⟩)
          exact absurd (List.contains_iff_mem.1 hreserved) hfield.free
      · rw [if_neg hreserved]
        have hfree : key ∉ reservedFields := fun h => hreserved (List.contains_iff_mem.2 h)
        constructor
        · intro h
          obtain ⟨x, hx, h⟩ := ok_of_bind h
          obtain ⟨xs, hxs, h⟩ := ok_of_bind h
          obtain rfl := Except.ok.inj h
          exact .cons ⟨rfl, hfree, Resolved.number_ok.1 hx⟩ (ih.1 hxs)
        · rintro (_ | @⟨_, ⟨name, x⟩, _, _, ⟨hname, -, hnumber⟩, hrest⟩)
          obtain rfl : name = key := hname
          rw [bind_of_ok (Resolved.number_ok.2 hnumber), bind_of_ok (ih.2 hrest)]
          rfl

theorem typeOf_ok {found : Option Value} {s : String} :
    typeOf path found = .ok s ↔ found = some (.text s) ∧ s ≠ "" := by
  unfold typeOf
  split
  · split <;> simp_all [Resolved.reject]
    grind
  · simp_all [Resolved.reject]

theorem refOf_ok {found : Option Value} {r : Option String} :
    refOf path found = .ok r ↔ RefOf found r := by
  constructor
  · intro h
    unfold refOf at h
    split at h
    · obtain rfl := Except.ok.inj h
      exact .absent
    · obtain rfl := Except.ok.inj h
      exact .null
    · rename_i s
      obtain rfl := Except.ok.inj h
      by_cases hs : s = ""
      · subst hs
        exact .root
      · rw [if_neg hs]
        exact .node s hs
    · cases h
  · rintro (_ | _ | _ | ⟨s, hs⟩)
    · rfl
    · rfl
    · rfl
    · simp [refOf, hs]

/-- **An edge is accepted** if it denotes something, whatever the errors would have named. -/
theorem edge_ok : p.edge path v = .ok e ↔ p.Denotes v e := by
  cases v with
  | object fields =>
    unfold edge
    dsimp only [Denotes]
    constructor
    · intro h
      obtain ⟨htype, h⟩ := ok_of_guard h
      obtain ⟨href, h⟩ := ok_of_guard h
      obtain ⟨type, hname, h⟩ := ok_of_bind h
      obtain ⟨ref, htarget, h⟩ := ok_of_bind h
      obtain ⟨l, hl, h⟩ := ok_of_bind h
      obtain rfl := Except.ok.inj h
      obtain ⟨hname, hne⟩ := typeOf_ok.1 hname
      exact {
        type := hname
        type_ne := hne
        type_agrees := by simpa using htype
        ref := refOf_ok.1 htarget
        ref_agrees := by simpa using href
        constants := ⟨l, constants_ok.1 hl, rfl⟩ }
    · intro h
      obtain ⟨l, hl, hconstants⟩ := h.constants
      rw [if_neg (by simp [h.type_agrees]), if_neg (by simp [h.ref_agrees])]
      rw [bind_of_ok (typeOf_ok.2 ⟨h.type, h.type_ne⟩), bind_of_ok (refOf_ok.2 h.ref)]
      rw [bind_of_ok (constants_ok.2 hl), ← hconstants]
      rfl
  | _ => exact iff_of_false nofun id

end Fields

section Marking

/-- Fields with one more, if the place gives it. -/
def withField (key : String) (given : Option String) (fields : List (String × Value)) :
    List (String × Value) :=
  match given with
  | some s => Table.put key (.text s) fields
  | none => fields

/-- **A document with what its place says** written into its fields. -/
def mark (p : EdgePlace) : Value → Value
  | .object fields => .object (withField "ref" p.ref (withField "type" p.type fields))
  | v => v

variable {p : EdgePlace} {key : String} {given : Option String} {fields : List (String × Value)}
  {v : Value} {e : Edge}

theorem lookup_withField (j : String) : (withField key given fields).lookup j =
    if j = key then given.map .text <|> fields.lookup key else fields.lookup j := by
  cases given with
  | none => by_cases h : j = key <;> simp [withField, h]
  | some s => simp [withField, Table.lookup_put]

/-- Writing a type or a ref does not touch the other fields. -/
theorem otherFields_withField (h : key = "type" ∨ key = "ref") :
    otherFields (withField key given fields) = otherFields fields := by
  cases given with
  | none => rfl
  | some s => exact Table.filter_put (fun _ => by simpa using fun hne => h.resolve_left hne) _ _

/-- What agrees with the place may as well be written into the field. -/
theorem fieldValue_map {found : Option Value}
    (h : contradicts given (fieldValue given found) = false) :
    fieldValue none (given.map .text <|> found) = fieldValue given found := by
  cases given with
  | none => cases found <;> rfl
  | some s =>
    cases found with
    | none => rfl
    | some w =>
      cases w with
      | text t =>
        obtain rfl : s = t := by simpa [contradicts, fieldValue] using h
        rfl
      | _ => cases h

/-- **Edges stay the same** when their places are written into their fields. -/
theorem denotes_mark (h : p.Denotes v e) : ({} : EdgePlace).Denotes (p.mark v) e := by
  cases v with
  | object fields =>
    have hreads : p.Reads fields e := h
    obtain ⟨l, hl, hconstants⟩ := hreads.constants
    have htype : fieldValue none ((withField "ref" p.ref
        (withField "type" p.type fields)).lookup "type") =
        fieldValue p.type (fields.lookup "type") := by
      simpa [lookup_withField] using fieldValue_map hreads.type_agrees
    have href : fieldValue none ((withField "ref" p.ref
        (withField "type" p.type fields)).lookup "ref") =
        fieldValue p.ref (fields.lookup "ref") := by
      simpa [lookup_withField] using fieldValue_map hreads.ref_agrees
    exact {
      type := htype.trans hreads.type
      type_ne := hreads.type_ne
      type_agrees := rfl
      ref := href ▸ hreads.ref
      ref_agrees := rfl
      constants := ⟨l, by rwa [otherFields_withField (by simp), otherFields_withField (by simp)],
        hconstants⟩ }
  | _ => exact h.elim

theorem RefOf.ne_empty {found : Option Value} {r : Option String} (h : RefOf found r) :
    r ≠ some "" := by
  rcases h with _ | _ | _ | ⟨s, hs⟩
  · simp
  · simp
  · simp
  · simpa using hs

/-- **What every edge is like.** It has a type, its ref is not empty, and the names of its constants
are free. -/
theorem Denotes.sound (h : p.Denotes v e) :
    e.type ≠ "" ∧ e.ref ≠ some "" ∧ ∀ k ∈ e.constants, k ∉ reservedFields := by
  cases v with
  | object fields =>
    have hreads : p.Reads fields e := h
    obtain ⟨l, hl, hconstants⟩ := hreads.constants
    have hfree : ∀ c ∈ l, c.1 ∉ reservedFields :=
      forall_mem_of_forall₂ hl fun _ _ h => h.name ▸ h.free
    refine ⟨hreads.type_ne, hreads.ref.ne_empty, fun k hk => ?_⟩
    rw [hconstants, Table.mem_ofList] at hk
    obtain ⟨c, hc, rfl⟩ := List.mem_map.1 hk
    exact hfree c hc
  | _ => exact h.elim

end Marking

section Places

/-- The edge of a document with its place. -/
def IsEdge (x : EdgePlace × Value) (e : Edge) : Prop := x.1.Denotes x.2 e

/-- The edges at a place, one of them or a list, with the place. -/
def here (p : EdgePlace) (v : Value) : List (EdgePlace × Value) :=
  match v with
  | .list items => items.map fun v => (p, v)
  | _ => [(p, v)]

/-- The edges below a key, with their places. -/
def inside (p : EdgePlace) (v : Value) : List (EdgePlace × Value) :=
  match v with
  | .object fields =>
    if hasField fields "type" || hasField fields "ref" then p.here v
    else fields.flatMap fun e => (p.below e.1).here e.2
  | _ => p.here v

/-- The place below a key of the first level. -/
def first (properties : List String) (key : String) : EdgePlace :=
  if key ∈ properties then { type := some key } else { ref := some key }

/-- A name that is that of a property and of nothing else. -/
def NamesProperty (properties nodes : List String) (key : String) : Prop :=
  key ∈ properties ∧ key ∉ nodes ∧ key ≠ rootId

/-- A name that is that of a node or of the root, and of nothing else. -/
def NamesTarget (properties nodes : List String) (key : String) : Prop :=
  key ∉ properties ∧ (key ∈ nodes ∨ key = rootId)

/-- Two names of which one is that of a property and the other that of a target. -/
def OfBothKinds (properties nodes : List String) (k j : String) : Prop :=
  NamesProperty properties nodes k ∧ NamesTarget properties nodes j ∨
    NamesTarget properties nodes k ∧ NamesProperty properties nodes j

variable {p : EdgePlace} {path key j k : String} {properties nodes : List String} {v : Value}
  {es : List Edge}

theorem OfBothKinds.symm (h : OfBothKinds properties nodes k j) :
    OfBothKinds properties nodes j k := (Or.symm h).imp And.symm And.symm

/-- Such names say the same about an edge in both orders. -/
theorem OfBothKinds.below_first (h : OfBothKinds properties nodes k j) :
    (first properties k).below j = (first properties j).below k := by
  rcases h with ⟨hk, hj⟩ | ⟨hk, hj⟩ <;> simp [first, below, hk.1, hj.1]

theorem listed_ok {items : List Value} :
    p.listed path items = .ok es ↔ List.Forall₂ p.Denotes items es :=
  mapM_zipIdx_ok fun _ _ _ => edge_ok

theorem edges_ok :
    p.edges path v = .ok es ↔ List.Forall₂ IsEdge (p.here v) es := by
  cases v with
  | list items =>
    unfold edges here
    rw [List.forall₂_map_left_iff]
    exact listed_ok
  | _ =>
    constructor
    · intro h
      obtain ⟨e, he, h⟩ := ok_of_bind h
      obtain rfl := Except.ok.inj h
      exact .cons (edge_ok.1 he) .nil
    · rintro (_ | ⟨he, ⟨⟩⟩)
      exact bind_of_ok (edge_ok.2 he) _

theorem group_ok :
    p.group path v = .ok es ↔ List.Forall₂ IsEdge (p.inside v) es := by
  cases v with
  | object fields =>
    unfold group inside
    dsimp only
    split
    · exact edges_ok
    · have hbelow (e : String × Value) (bs : List Edge) :
          (p.below e.1).edges s!"{path}.{e.1}" e.2 = .ok bs ↔
            True ∧ List.Forall₂ IsEdge ((p.below e.1).here e.2) bs := by
        rw [true_and]
        exact edges_ok
      exact (flatten_mapM_ok hbelow).trans (by simp)
  | _ =>
    unfold group inside
    exact edges_ok

theorem ofKey_ok : ofKey path key properties nodes = .ok p ↔
    (NamesProperty properties nodes key ∨ NamesTarget properties nodes key) ∧
      p = first properties key := by
  unfold ofKey NamesProperty NamesTarget
  split
  · simp_all [Resolved.reject]
    tauto
  · simp_all [first, @eq_comm _ p]
  · simp_all [first, @eq_comm _ p]
  · simp_all [Resolved.reject]

end Places

end EdgePlace

namespace EdgesDraft

open EdgePlace

/-- **All edges with their places,** in the order in which they are written. -/
def placed (properties : List String) : EdgesDraft → List (EdgePlace × Value)
  | listed items => items.map fun v => ({}, v)
  | keyed groups => groups.flatMap fun e => (first properties e.1).inside e.2

/-- **A list of edges** whose places are written into their fields. -/
def listing (properties : List String) (d : EdgesDraft) : List Value :=
  (d.placed properties).map fun x => x.1.mark x.2

variable {path : String} {properties nodes : List String} {es : List Edge}

/-- **What a list of edges denotes.** -/
theorem listed_ok {items : List Value} :
    (listed items).resolve path properties nodes = .ok es ↔
      List.Forall₂ ({} : EdgePlace).Denotes items es := EdgePlace.listed_ok

/-- **What keyed edges denote:** each key of the first level is the name of a property or of a
target, but not of both, and gives the place of the edges below it. -/
theorem keyed_ok {groups : List (String × Value)} :
    (keyed groups).resolve path properties nodes = .ok es ↔
      (∀ e ∈ groups, NamesProperty properties nodes e.1 ∨ NamesTarget properties nodes e.1) ∧
        List.Forall₂ IsEdge ((keyed groups).placed properties) es := by
  refine flatten_mapM_ok fun (key, v) bs => ?_
  dsimp only
  constructor
  · intro h
    obtain ⟨p, hp, h⟩ := ok_of_bind h
    obtain ⟨hkind, rfl⟩ := ofKey_ok.1 hp
    exact ⟨hkind, group_ok.1 h⟩
  · rintro ⟨hkind, h⟩
    rw [bind_of_ok (ofKey_ok.2 ⟨hkind, rfl⟩)]
    exact group_ok.2 h

/-- Whatever its syntax, a draft denotes the edges at its places. -/
theorem placed_of_ok {d : EdgesDraft} (h : d.resolve path properties nodes = .ok es) :
    List.Forall₂ IsEdge (d.placed properties) es := by
  cases d with
  | listed items => exact List.forall₂_map_left_iff.2 (listed_ok.1 h)
  | keyed groups => exact (keyed_ok.1 h).2

/-- **Every syntax agrees with lists:** the places may be written into the fields. -/
theorem listed_listing {d : EdgesDraft} (h : d.resolve path properties nodes = .ok es)
    (path' : String) :
    (listed (d.listing properties)).resolve path' properties nodes = .ok es := by
  refine listed_ok.2 (List.forall₂_map_left_iff.2 ((placed_of_ok h).imp fun x e he => ?_))
  exact denotes_mark he

/-- **Edges keyed twice,** by the two levels of names of a table. -/
def ofLevels (levels : Table (Table Value)) : EdgesDraft :=
  keyed (levels.entries.map fun e => (e.1, .object e.2.entries))

/-- **Tables whose levels may change places.** Above each value there is the name of a property and
that of a target, and neither of them is that of a field. -/
def Crossed (properties nodes : List String) (levels : Table (Table Value)) : Prop :=
  ∀ k j v, levels.below? k j = some v →
    k ∉ ["type", "ref"] ∧ j ∉ ["type", "ref"] ∧ OfBothKinds properties nodes k j

variable {levels turned : Table (Table Value)}

theorem Crossed.transposed (h : Crossed properties nodes levels)
    (hturned : Table.Transposed levels turned) : Crossed properties nodes turned := by
  intro j k v hv
  rw [hturned.below?] at hv
  obtain ⟨hk, hj, hkinds⟩ := h k j v hv
  exact ⟨hj, hk, hkinds.symm⟩

/-- Without the names of fields, both levels are keys. -/
theorem placed_ofLevels (h : Crossed properties nodes levels) :
    (ofLevels levels).placed properties =
      levels.crossings.flatMap fun x => ((first properties x.1).below x.2.1).here x.2.2 := by
  have hinside : ∀ e ∈ levels.entries, (first properties e.1).inside (.object e.2.entries) =
      e.2.entries.flatMap fun d => ((first properties e.1).below d.1).here d.2 := by
    intro e he
    have hfree (key : String) (hkey : key ∈ ["type", "ref"]) :
        hasField e.2.entries key = false := by
      by_contra hfield
      obtain ⟨d, hd, hname⟩ := List.any_eq_true.1 (Bool.not_eq_false _ ▸ hfield)
      have hbelow : levels.below? e.1 d.1 = some d.2 :=
        Table.below?_eq_some_iff.2
          ⟨e.2, Table.get?_eq_some_iff.2 he, Table.get?_eq_some_iff.2 hd⟩
      exact (h _ _ _ hbelow).2.1 (eq_of_beq hname ▸ hkey)
    simp [inside, hfree]
  simp only [placed, ofLevels, Table.crossings, List.flatMap_assoc, List.flatMap_map]
  exact List.flatMap_congr hinside

/-- **Edges keyed twice may be turned around.** -/
theorem resolve_transposed (h : (ofLevels levels).resolve path properties nodes = .ok es)
    (hcrossed : Crossed properties nodes levels) (hturned : Table.Transposed levels turned)
    (path' : String) :
    ∃ es', (ofLevels turned).resolve path' properties nodes = .ok es' ∧ es'.Perm es := by
  have hplaced : ((ofLevels turned).placed properties).Perm
      ((ofLevels levels).placed properties) := by
    rw [placed_ofLevels hcrossed, placed_ofLevels (hcrossed.transposed hturned)]
    refine (hturned.perm.flatMap_right _).trans (List.Perm.of_eq ?_)
    rw [List.flatMap_map]
    refine List.flatMap_congr fun x hx => ?_
    obtain ⟨-, -, hkinds⟩ := hcrossed _ _ _ (Table.mem_crossings.1 hx)
    rw [hkinds.below_first]
  -- the same documents at the same places denote the same edges, in another order
  obtain ⟨es', hes', hperm⟩ := List.perm_comp_forall₂ hplaced (placed_of_ok h)
  refine ⟨es', keyed_ok.2 ⟨fun e he => ?_, hes'⟩, hperm⟩
  obtain ⟨⟨j, inner⟩, hinner, rfl⟩ := List.mem_map.1 he
  obtain ⟨k, v, hv⟩ := hturned.nonempty j (Table.mem_of_get? (Table.get?_eq_some_iff.2 hinner))
  obtain ⟨-, -, hkinds⟩ := hcrossed.transposed hturned j k v hv
  exact hkinds.imp And.left And.left

/-- **All ways to write edges agree.** Keyed edges are those of a list in which each document has
the type and the ref that its keys give it. Where one of the two keys above each edge is the name of
a property and the other that of a target, the keys may change places. And every edge has a type,
leads to the root or to a node with a name, and has no constant with the name of a field. -/
theorem syntaxes_agree (properties nodes : List String) :
    (∀ groups path es, (keyed groups).resolve path properties nodes = .ok es → ∀ path',
      (listed ((keyed groups).listing properties)).resolve path' properties nodes = .ok es) ∧
    (∀ levels path es, (ofLevels levels).resolve path properties nodes = .ok es →
      Crossed properties nodes levels → ∀ turned, Table.Transposed levels turned → ∀ path',
        ∃ es', (ofLevels turned).resolve path' properties nodes = .ok es' ∧ es'.Perm es) ∧
    (∀ levels : Table (Table Value), Table.Transposed levels levels.transpose) ∧
    ∀ d path es, resolve path properties nodes d = .ok es → ∀ e ∈ es,
      e.type ≠ "" ∧ e.ref ≠ some "" ∧
        ∀ k ∈ e.constants, k ∉ ["ref", "type", "source", "implied"] := by
  refine ⟨fun groups path es h => listed_listing h, ?_, Table.transposed_transpose, ?_⟩
  · exact fun levels path es h hcrossed turned hturned => resolve_transposed h hcrossed hturned
  · intro d path es h e he
    obtain ⟨htype, href, hfree⟩ :=
      forall_mem_of_forall₂ (placed_of_ok h) (fun x e hx => Denotes.sound hx) e he
    refine ⟨htype, href, fun k hk hname => hfree k hk ?_⟩
    simp only [reservedFields, List.mem_cons] at hname ⊢
    tauto

/-- Edges to a mill and to the root, keyed by target and then by type. -/
def milling : Table (Table Value) := .ofList [
  ("mill", .ofList [
    ("flow", .object [("rate", .int 2)]), ("silt", .object [("type", .text "silt")])]),
  (rootId, .ofList [("flow", .list [.object [], .object [("rate", .int 3)]])])]

/-- The edges to the mill and to the root may be listed, and keyed by type and then by target. -/
theorem syntaxes_agree_milling :
    ∃ es, (ofLevels milling).resolve "edges" ["flow", "silt"] ["mill"] = .ok es ∧
      es.map Edge.type = ["flow", "silt", "flow", "flow"] ∧
      es.map Edge.ref = [some "mill", some "mill", none, none] ∧
      (listed ((ofLevels milling).listing ["flow", "silt"])).resolve "list" ["flow", "silt"]
        ["mill"] = .ok es ∧
      (∃ es', (ofLevels milling.transpose).resolve "edges" ["flow", "silt"] ["mill"] = .ok es' ∧
        es'.map Edge.type = ["flow", "flow", "flow", "silt"] ∧ es'.Perm es) ∧
      ∀ e ∈ es, e.type ≠ "" ∧ e.ref ≠ some "" ∧
        ∀ k ∈ e.constants, k ∉ ["ref", "type", "source", "implied"] := by
  obtain ⟨hlisting, hturning, htransposed, hsound⟩ := syntaxes_agree ["flow", "silt"] ["mill"]
  have hcrossed : Crossed ["flow", "silt"] ["mill"] milling := by
    intro k j v hv
    have hmem : (k, j, v) ∈ milling.crossings := Table.mem_crossings.2 hv
    have hkeys : (k, j) ∈ [("mill", "flow"), ("mill", "silt"), (rootId, "flow")] :=
      List.mem_map_of_mem (f := fun x => (x.1, x.2.1)) hmem
    simp only [List.mem_cons, Prod.mk.injEq, List.not_mem_nil, or_false] at hkeys
    rcases hkeys with ⟨rfl, rfl⟩ | ⟨rfl, rfl⟩ | ⟨rfl, rfl⟩ <;>
      exact ⟨by decide, by decide, Or.inr ⟨⟨by decide, by decide⟩, by decide, by decide, by decide⟩⟩
  have hkeyed : ∃ es, (ofLevels milling).resolve "edges" ["flow", "silt"] ["mill"] = .ok es ∧
      es.map Edge.type = ["flow", "silt", "flow", "flow"] ∧
      es.map Edge.ref = [some "mill", some "mill", none, none] := ⟨_, rfl, rfl, rfl⟩
  have hturned : ∃ es, (ofLevels milling.transpose).resolve "edges" ["flow", "silt"] ["mill"] =
      .ok es ∧ es.map Edge.type = ["flow", "flow", "flow", "silt"] := ⟨_, rfl, rfl⟩
  obtain ⟨es, hes, htypes, hrefs⟩ := hkeyed
  obtain ⟨es', hes', htypes'⟩ := hturned
  refine ⟨es, hes, htypes, hrefs, hlisting _ _ es hes _, ⟨es', hes', htypes', ?_⟩, ?_⟩
  · obtain ⟨es'', hes'', hperm⟩ := hturning _ _ es hes hcrossed _ (htransposed milling) "edges"
    obtain rfl := Except.ok.inj (hes'.symm.trans hes'')
    exact hperm
  · exact hsound _ _ es hes

/-- Two nodes, of which one is written below the other. -/
def twoNodes (outer inner : String) : Table (Table Value) :=
  .ofList [(outer, .ofList [(inner, .object [])])]

/-- **Names of the same kind may not change places:** below the key of a node, every key is a type,
and the edge of one node that is written below the other is not the edge of the other way around. -/
theorem not_perm_of_two_nodes :
    (∀ k j v, (twoNodes "mill" "lake").below? k j = some v →
      NamesTarget [] ["mill", "lake"] k ∧ NamesTarget [] ["mill", "lake"] j ∧
        k ∉ ["type", "ref"] ∧ j ∉ ["type", "ref"]) ∧
    Table.Transposed (twoNodes "mill" "lake") (twoNodes "lake" "mill") ∧
    ∃ es es', (ofLevels (twoNodes "mill" "lake")).resolve "edges" [] ["mill", "lake"] = .ok es ∧
      (ofLevels (twoNodes "lake" "mill")).resolve "edges" [] ["mill", "lake"] = .ok es' ∧
      ¬ es'.Perm es := by
  have hbelow (outer inner k j : String) (v : Value) :
      (twoNodes outer inner).below? k j = some v ↔ k = outer ∧ j = inner ∧ v = .object [] := by
    rw [← Table.mem_crossings]
    simp [twoNodes, Table.crossings, Table.entries_ofList]
  refine ⟨fun k j v h => ?_, ⟨fun j k => ?_, fun j hj => ?_⟩, _, _, rfl, rfl, fun hperm => ?_⟩
  · obtain ⟨rfl, rfl, -⟩ := (hbelow _ _ k j v).1 h
    exact ⟨⟨by decide, by decide⟩, ⟨by decide, by decide⟩, by decide, by decide⟩
  · refine Option.ext fun v => ?_
    rw [hbelow, hbelow, and_left_comm]
  · obtain rfl : j = "lake" := by simpa [twoNodes, Table.mem_ofList] using hj
    exact ⟨"mill", .object [], rfl⟩
  · have htypes := List.perm_singleton.1 (hperm.map Edge.type)
    exact absurd htypes (by decide)

end EdgesDraft

end ValuedGraph
