import ValuedGraph.Expr.Basic
import ValuedGraph.Table

/-!
# Surroundings

What an expression can read while it is evaluated: the edges in front of it with the values of
their refs, the root, the results so far, an input array, the variables bound around it and
the tags of the node.

* `Surroundings.bind`: the surroundings inside the block of a binding.
* `TagMembership.extended`: the tags a node has from its refs only.
-/

namespace ValuedGraph

/-- **The tags of a node:** those set on it, and all of them with those of its refs. -/
structure TagMembership where
  own : List String := []
  all : List String := []
  deriving DecidableEq, Repr, Inhabited

/-- Names of either list; those of the second that are new go last. -/
def unionNames (a b : List String) : List String := a ++ b.filter fun k => !a.contains k

theorem mem_unionNames {a b : List String} {k : String} :
    k ∈ unionNames a b ↔ k ∈ a ∨ k ∈ b := by
  by_cases h : k ∈ a <;> simp [unionNames, h]

namespace TagMembership

/-- The tags a node has from its refs only. -/
def extended (t : TagMembership) : List String := t.all.filter fun k => !t.own.contains k

/-- The tags in a scope. -/
def inScope (t : TagMembership) : TagScope → List String
  | .all => t.all
  | .self => t.own
  | .extended => t.extended

/-- The tags of either membership. -/
def union (t u : TagMembership) : TagMembership :=
  ⟨unionNames t.own u.own, unionNames t.all u.all⟩

end TagMembership

/-- **Everything an expression can read.** The lists of edges and refs run in parallel. -/
structure Surroundings where
  /-- the constants of each edge -/
  edges : List (Table Float) := []
  /-- the values of each edge's ref -/
  refs : List (Table Float) := []
  /-- the values of the root -/
  root : Table Float := ∅
  /-- the values of the same node, so far -/
  results : Table Float := ∅
  /-- the array supplied by the caller -/
  input : Option (List Float) := none
  /-- the arrays bound around the expression -/
  bindings : Table (List Float) := ∅
  /-- the tags of the node -/
  tags : TagMembership := {}
  /-- the constants of every tag, in the order of the tags -/
  tagConstants : Table (Table Float) := ∅

/-- **The surroundings inside a block** that binds a name. -/
def Surroundings.bind (s : Surroundings) (name : String) (values : List Float) : Surroundings :=
  { s with bindings := s.bindings.insert name values }

end ValuedGraph
