import ValuedGraph.Document.Basic

/-!
# Closed vocabularies

Many settings take one of a fixed list of words. A type of such settings is a `Vocabulary`:
each member has the word that authors write, a name and a line of documentation.

* `Vocabulary.ofWord?`: the member with a word.
* `Vocabulary.parse`: the member a value names, or the message that lists the choices.
-/

namespace ValuedGraph

/-- **A type whose members are chosen by a word.** -/
class Vocabulary (α : Type) where
  /-- every member, in the order messages list them -/
  all : List α
  /-- the word an author writes -/
  word : α → String
  /-- the name under which a member is catalogued -/
  name : α → String
  /-- what a member means -/
  about : α → String

namespace Vocabulary

variable {α : Type} [Vocabulary α]

/-- The member with a word. -/
def ofWord? (s : String) : Option α := (all : List α).find? fun a => word a == s

/-- The words of a vocabulary, each quoted. -/
def choices (α : Type) [Vocabulary α] : String :=
  commaSeparated ((all : List α).map fun a => quoted (word a))

/-- The member a value names. -/
def ofValue? : Value → Option α
  | .text s => ofWord? s
  | _ => none

/-- What a value that names no member is answered. -/
def unknown (α : Type) [Vocabulary α] (what : String) (v : Value) : String :=
  s!"Unknown {what}: {v.literal} (expected one of {choices α})"

/-- **The member a value names,** or the message that lists the choices. -/
def parse (v : Value) (what : String) : Except String α :=
  match ofValue? v with
  | some a => .ok a
  | none => .error (unknown α what v)

end Vocabulary

end ValuedGraph
