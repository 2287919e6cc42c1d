import ValuedGraph.Definition.Basic
import ValuedGraph.Definition.Error

/-!
# Edges as written

Authors write the edges of a node in three ways: as a list, keyed by type and then by ref, or
keyed by ref and then by type. A key at the first level is read as a type if it names a
property, and as a ref if it names a node or the root. What stands at a keyed place gets its
type or ref from the keys, and may repeat but not contradict them.

* `EdgesDraft.resolve`: the edges of a node, in the order in which they are written.
-/

namespace ValuedGraph

/-- **What the place of an edge says about it.** -/
structure EdgePlace where
  type : Option String := none
  ref : Option String := none

namespace EdgePlace

/-- The value of a field that the place may give, too. -/
def fieldValue (given : Option String) (found : Option Value) : Option Value :=
  found <|> given.map Value.text

/-- Whether a field contradicts the place. -/
def contradicts (given : Option String) (v : Option Value) : Bool :=
  match given, v with
  | some s, some (.text t) => s != t
  | some _, _ => true
  | none, _ => false

/-- The constants of an edge: its fields besides type and ref. -/
def constants (path : String) : List (String × Value) → Resolved (List (String × Float))
  | [] => .ok []
  | (key, v) :: rest =>
    if key = "type" || key = "ref" then constants path rest
    else if reservedFields.contains key then Resolved.reject (.reservedField path key)
    else do
      let x ← Resolved.number s!"{path}.{key}" v
      let xs ← constants path rest
      return (key, x) :: xs

/-- The type of an edge. -/
def typeOf (path : String) : Option Value → Resolved String
  | some (.text s) => if s = "" then Resolved.reject (.noType path) else .ok s
  | _ => Resolved.reject (.noType path)

/-- The ref of an edge, if it does not lead to the root. -/
def refOf (path : String) : Option Value → Resolved (Option String)
  | none | some .null => .ok none
  | some (.text s) => .ok (if s = "" then none else some s)
  | some v => Resolved.reject (.badRef path v)

/-- **One edge** at a place. -/
def edge (p : EdgePlace) (path : String) (v : Value) : Resolved Edge :=
  match v with
  | .object fields => do
    let type := fieldValue p.type (fields.lookup "type")
    let ref := fieldValue p.ref (fields.lookup "ref")
    if contradicts p.type type then
      Resolved.reject (.typeConflict path (type.getD .null) (p.type.getD ""))
    if contradicts p.ref ref then
      Resolved.reject (.refConflict path (ref.getD .null) (p.ref.getD ""))
    let name ← typeOf path type
    let target ← refOf path ref
    return { type := name, ref := target, constants := .ofList (← constants path fields) }
  | _ => Resolved.reject (.notEdge path v)

/-- The edges of a list, all at the same place. -/
def listed (p : EdgePlace) (path : String) (items : List Value) : Resolved (List Edge) :=
  items.zipIdx.mapM fun (v, i) => p.edge s!"{path}[{i}]" v

/-- **The edges at a place:** one of them, or a list. -/
def edges (p : EdgePlace) (path : String) (v : Value) : Resolved (List Edge) :=
  match v with
  | .list items => p.listed path items
  | _ => return [← p.edge path v]

/-- What the place says after one more key. -/
def below (p : EdgePlace) (key : String) : EdgePlace :=
  match p.type with
  | some _ => { p with ref := some key }
  | none => { p with type := some key }

/-- The edges below a key, which may be keyed once more. -/
def group (p : EdgePlace) (path : String) (v : Value) : Resolved (List Edge) :=
  match v with
  | .object fields =>
    if hasField fields "type" || hasField fields "ref" then p.edges path v
    else return (← fields.mapM fun (key, w) => (p.below key).edges s!"{path}.{key}" w).flatten
  | _ => p.edges path v

/-- The place below a key of the first level. -/
def ofKey (path key : String) (properties nodes : List String) : Resolved EdgePlace :=
  match properties.contains key, nodes.contains key || key == rootId with
  | true, true => Resolved.reject (.ambiguousKey path key)
  | true, false => .ok { type := some key }
  | false, true => .ok { ref := some key }
  | false, false => Resolved.reject (.strangeKey path key)

end EdgePlace

/-- **The edges of a node,** in the order in which they are written. -/
def EdgesDraft.resolve (path : String) (properties nodes : List String) :
    EdgesDraft → Resolved (List Edge)
  | listed items => EdgePlace.listed {} path items
  | keyed groups =>
    return (← groups.mapM fun (key, v) => do
      (← EdgePlace.ofKey s!"{path}.{key}" key properties nodes).group s!"{path}.{key}" v).flatten

end ValuedGraph
