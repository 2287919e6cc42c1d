import ValuedGraph.Text.Quoted

/-!
# Problems of shape

A document is checked for its shape as a whole, and every problem is reported with its place.
A `Checked` value is the result of such a check: either the value or all problems.

* `Problem.sorted`: the order in which problems are reported.
-/

namespace ValuedGraph

/-- **A place in a document:** the keys and indices that lead to it. -/
abbrev Location := List String

/-- What can be wrong with the shape of a value. -/
inductive ProblemKind where
  /-- a field that has to be there is not -/
  | missing
  /-- a field that is not one of its object's -/
  | extraField
  /-- no object where one with given fields is needed -/
  | notModel
  /-- no object where one with any names is needed -/
  | notTable
  | notList
  | notText
  | notInteger
  /-- a text that is no integer -/
  | badInteger
  /-- a text with too many digits, or a double without fraction that is too large -/
  | hugeInteger
  /-- a double that is no integer -/
  | fractional
  /-- an infinity or NaN for an integer -/
  | notFinite
  | notBoolean
  /-- a text or an integer that is no truth value -/
  | badBoolean
  | notNumber
  /-- a text that is no number -/
  | badNumber
  /-- none of the words that are allowed -/
  | badWord
  deriving DecidableEq, Repr

/-- The catalogue word of a kind of problem. -/
def ProblemKind.word : ProblemKind → String
  | missing => "missing"
  | extraField => "extra_forbidden"
  | notModel => "model_type"
  | notTable => "dict_type"
  | notList => "list_type"
  | notText => "string_type"
  | notInteger => "int_type"
  | badInteger => "int_parsing"
  | hugeInteger => "int_parsing_size"
  | fractional => "int_from_float"
  | notFinite => "finite_number"
  | notBoolean => "bool_type"
  | badBoolean => "bool_parsing"
  | notNumber => "float_type"
  | badNumber => "float_parsing"
  | badWord => "literal_error"

/-- **A problem and its place.** -/
structure Problem where
  location : Location
  kind : ProblemKind
  deriving DecidableEq, Repr

namespace Problem

/-- The place of a problem, its keys joined by points. -/
def place (p : Problem) : String := ".".intercalate p.location

/-- Problems are ordered by place, then by kind. -/
def le (p q : Problem) : Bool :=
  if p.place = q.place then textLe p.kind.word q.kind.word else textLe p.place q.place

/-- **Problems in the order in which they are reported.** -/
def sorted (ps : List Problem) : List Problem := ps.mergeSort le

end Problem

/-- **The result of a check:** a value, or everything that is wrong. -/
inductive Checked (α : Type) where
  | valid (a : α)
  | invalid (problems : List Problem)

namespace Checked

variable {α β : Type}

/-- What a check has to report. -/
def problems : Checked α → List Problem
  | valid _ => []
  | invalid ps => ps

/-- The value of a check that went well. -/
def value? : Checked α → Option α
  | valid a => some a
  | invalid _ => none

/-- Reports one problem. -/
def problem (location : Location) (kind : ProblemKind) : Checked α := invalid [⟨location, kind⟩]

/-- Changes the value of a check. -/
protected def map (f : α → β) : Checked α → Checked β
  | valid a => valid (f a)
  | invalid ps => invalid ps

/-- Applies the value of one check to that of another. -/
protected def seq (f : Checked (α → β)) (x : Checked α) : Checked β :=
  match f, x with
  | valid f, valid a => valid (f a)
  | f, x => invalid (f.problems ++ x.problems)

instance : Applicative Checked where
  pure := valid
  map := Checked.map
  seq f x := f.seq (x ())

/-- Makes every check of a list. -/
def all (f : α → Checked β) : List α → Checked (List β)
  | [] => pure []
  | a :: rest => List.cons <$> f a <*> all f rest

end Checked

end ValuedGraph
