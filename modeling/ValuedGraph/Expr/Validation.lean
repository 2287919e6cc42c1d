import ValuedGraph.Expr.Basic

/-!
# Validation of expressions

An expression is used at some place of a definition, and each place has its own rules: which
names exist there and which capabilities it lacks. Validation finds the first violation,
parents before children and from left to right, so that a valid expression finds everything
it reads wherever the place is evaluated.

* `Expr.ownViolation`: what is wrong with one expression, its children apart.
* `Expr.validate`: the first violation in a whole expression, and where it is.
-/

namespace ValuedGraph

/-- **What the expressions of one place may refer to.** -/
structure Permissions where
  /-- every property of the definition -/
  properties : List String
  /-- the edge constants that are declared -/
  constants : List String := []
  /-- the properties a result reference may read, any if there is no list -/
  dependencies : Option (List String) := none
  /-- every tag of the definition -/
  tags : List String := []
  /-- the capabilities the place lacks -/
  disallowed : List Capability := []
  /-- what messages call the place -/
  owner : String := "expression"

/-- What an expression may do wrong at its place. -/
inductive Violation where
  | unavailable (capability : Capability) (owner : String)
  | undeclaredConstant (name owner : String)
  | unknownProperty (name : String)
  | undeclaredDependency (name owner : String)
  | unknownTag (name : String)
  /-- a binding of a name that is bound around it -/
  | shadowed (name : String)
  | unbound (name : String)
  deriving DecidableEq, Repr

/-- The wording of a violation. -/
def Violation.message : Violation → String
  | unavailable capability owner =>
    s!"{Vocabulary.word capability} access is not available in {owner}"
  | undeclaredConstant name owner =>
    s!"constant '{name}' is not declared in the constants of {owner}"
  | unknownProperty name => s!"'{name}' is not a defined property"
  | undeclaredDependency name owner =>
    s!"'{name}' is used in a result reference but is not declared in the dependencies of {owner}"
  | unknownTag name => s!"'{name}' is not a defined tag"
  | shadowed name => s!"let '{name}' shadows an enclosing let of the same name"
  | unbound name => s!"variable '{name}' is not bound by an enclosing let"

/-- **A violation and the place of the expression** that commits it. -/
structure Misuse where
  path : String
  violation : Violation
  deriving DecidableEq, Repr

/-- Allows a step on a condition. -/
def unlessAllowed (allowed : Bool) (v : Violation) : Option Violation :=
  if allowed then none else some v

namespace Expr

/-- The capability of an expression, if its place lacks it. -/
def lackedCapability (p : Permissions) (e : Expr) : Option Violation :=
  match e.capability with
  | some c => unlessAllowed (!p.disallowed.contains c) (.unavailable c p.owner)
  | none => none

/-- A name that an expression refers to, if its place does not know it. -/
def unknownReference (p : Permissions) : Expr → Option Violation
  | edgeConstant name =>
    unlessAllowed (p.constants.contains name || name == impliedConstant)
      (.undeclaredConstant name p.owner)
  | parentValue name | rootValue name =>
    unlessAllowed (p.properties.contains name) (.unknownProperty name)
  | resultValue name =>
    unlessAllowed (p.properties.contains name) (.unknownProperty name) <|>
      unlessAllowed (p.dependencies.all fun names => names.contains name)
        (.undeclaredDependency name p.owner)
  | hasTag tag _ => unlessAllowed (p.tags.contains tag) (.unknownTag tag)
  | _ => none

/-- What is wrong with the variables of an expression, given the names bound around it. -/
def scopeViolation (bound : List String) : Expr → Option Violation
  | bind name _ _ => unlessAllowed (!bound.contains name) (.shadowed name)
  | var name => unlessAllowed (bound.contains name) (.unbound name)
  | _ => none

/-- **What is wrong with one expression,** its children apart. -/
def ownViolation (p : Permissions) (bound : List String) (e : Expr) : Option Violation :=
  e.lackedCapability p <|> e.unknownReference p <|> e.scopeViolation bound

/-- The place of a child. -/
def childPath (path : String) (i : Nat) : String := s!"{path}[{i}]"

mutual
/-- **The first violation in an expression,** given the names bound around it. -/
def violation (p : Permissions) (bound : List String) (path : String) (e : Expr) :
    Option Misuse :=
  (e.ownViolation p bound).map (Misuse.mk path) <|>
    match e with
    | literal _ | input | edgeConstant _ | parentValue _ | rootValue _ | resultValue _ => none
    | colorLiteral _ _ | hasTag _ _ | var _ => none
    | combine _ a | unary _ a | lengthOf _ a | log a _ =>
      violation p bound (childPath path 0) a
    | arithmetic _ a b | compare _ a b =>
      violation p bound (childPath path 0) a <|> violation p bound (childPath path 1) b
    | gradient a b c | choose a b c | rangeNormalize a b c | percentDenormalize a b c =>
      violation p bound (childPath path 0) a <|> violation p bound (childPath path 1) b <|>
        violation p bound (childPath path 2) c
    | colorRGB a b c alpha =>
      violation p bound (childPath path 0) a <|> violation p bound (childPath path 1) b <|>
        violation p bound (childPath path 2) c <|>
        violationOption p bound (childPath path 3) alpha
    | filter a b default =>
      violation p bound (childPath path 0) a <|> violation p bound (childPath path 1) b <|>
        violationOption p bound (childPath path 2) default
    | clip a low high =>
      violation p bound (childPath path 0) a <|>
        violationOption p bound (childPath path 1) low <|>
        violationOption p bound (childPath path (if low.isSome then 2 else 1)) high
    | collect items => violationList p bound path 0 items
    | tagConstant _ _ default => violationOption p bound (childPath path 0) default
    | bind name a b =>
      violation p bound (path ++ ".value") a <|>
        violation p (bound ++ [name]) (path ++ ".block") b

/-- The first violation in an optional expression. -/
def violationOption (p : Permissions) (bound : List String) (path : String) :
    Option Expr → Option Misuse
  | none => none
  | some e => violation p bound path e

/-- The first violation in the children of an expression, from an index on. -/
def violationList (p : Permissions) (bound : List String) (path : String) (i : Nat) :
    List Expr → Option Misuse
  | [] => none
  | e :: rest =>
    violation p bound (childPath path i) e <|> violationList p bound path (i + 1) rest
end

/-- **Whether an expression may be used at a place,** or else the first violation in it. -/
def validate (e : Expr) (p : Permissions) (path : String) : Except Misuse Unit :=
  match e.violation p [] path with
  | none => .ok ()
  | some misuse => .error misuse

end Expr

end ValuedGraph
