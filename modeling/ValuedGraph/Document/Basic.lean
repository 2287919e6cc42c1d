import ValuedGraph.Document.Moment
import ValuedGraph.Number.Decimal
import ValuedGraph.Text.Quoted

/-!
# Documents

A `Value` is what an author writes: null, a boolean, a number, a text, a list or an object,
whose fields are ordered. Integers of any size and doubles are different values, which shows
wherever a message writes a value out.

* `Value.field?`: the field of an object.
* `Value.literal`: a value as messages write it.
* `Value.isWritable`: whether a message can write a value at all.
* `DocumentFault`: why a text writes no document.
-/

namespace ValuedGraph

/-- **A document.** The names of an object's fields are distinct; of two fields of one name
the first counts. -/
inductive Value where
  | null
  | bool (b : Bool)
  | int (n : Int)
  | float (x : Float)
  | text (s : String)
  | moment (m : Moment)
  | list (items : List Value)
  | object (fields : List (String × Value))
  deriving Inhabited

namespace Value

/-- The field of an object. -/
def field? (v : Value) (k : String) : Option Value :=
  match v with
  | object fields => fields.lookup k
  | _ => none

mutual
/-- **A value as messages write it.** -/
def literal : Value → String
  | null => "None"
  | bool b => if b then "True" else "False"
  | int n => toString n
  | float x => fullText x
  | text s => quoted s
  | moment m => m.literal
  | list items => "[" ++ commaSeparated (literals items) ++ "]"
  | object fields => "\x7b" ++ commaSeparated (fieldLiterals fields) ++ "\x7d"

/-- The items of a list as messages write them. -/
def literals : List Value → List String
  | [] => []
  | v :: rest => literal v :: literals rest

/-- The fields of an object as messages write them. -/
def fieldLiterals : List (String × Value) → List String
  | [] => []
  | (k, v) :: rest => (quoted k ++ ": " ++ literal v) :: fieldLiterals rest
end

/-- The most decimal digits of an integer that are read or written. -/
def digitLimit : Nat := 4300

mutual
/-- **Whether a message can write a value.** Integers with too many digits cannot be written,
and neither can what they are part of. -/
def isWritable : Value → Bool
  | int n => n.natAbs < Nat.pow 10 digitLimit
  | list items => areWritable items
  | object fields => fieldsAreWritable fields
  | _ => true

/-- Whether a message can write all items of a list. -/
def areWritable : List Value → Bool
  | [] => true
  | v :: rest => isWritable v && areWritable rest

/-- Whether a message can write all fields of an object. -/
def fieldsAreWritable : List (String × Value) → Bool
  | [] => true
  | (_, v) :: rest => isWritable v && fieldsAreWritable rest
end

/-- **The name of the kind of a value,** for messages about values of an unexpected kind. -/
def kind : Value → String
  | null => "NoneType"
  | bool _ => "bool"
  | int _ => "int"
  | float _ => "float"
  | text _ => "str"
  | moment (.date _) => "datetime.date"
  | moment (.time _) => "datetime.time"
  | moment _ => "datetime.datetime"
  | list _ => "list"
  | object _ => "dict"

end Value

/-- **Why a text writes no document.** -/
inductive DocumentFault where
  /-- it breaks the rules of its format -/
  | malformed
  /-- an integer has more decimal digits than are read -/
  | longInteger (digits : Nat)
  deriving DecidableEq, Repr

namespace DocumentFault

/-- The wording of an integer that is too long. -/
def longIntegerMessage (digits : Nat) : String :=
  s!"Exceeds the limit ({Value.digitLimit} digits) for integer string conversion: value has " ++
    s!"{digits} digits; use sys.set_int_max_str_digits() to increase the limit"

/-- What was read, if there is any. -/
def demand {α : Type} (read : Option α) : Except DocumentFault α := read.elim (.error malformed) .ok

/-- An integer written in decimal digits, unless they are too many. -/
def withinDigits (n : Int) : Except DocumentFault Value :=
  if n.natAbs < Nat.pow 10 Value.digitLimit then .ok (.int n)
  else .error (.longInteger (decimalDigits n.natAbs).length)

end DocumentFault

/-- Whether an object has a field. -/
def hasField (fields : List (String × Value)) (k : String) : Bool :=
  fields.any fun e => e.1 == k

end ValuedGraph
