import ValuedGraph.Draft.Problem
import ValuedGraph.Number.Reading
import ValuedGraph.Table

/-!
# Checks of single values

A check takes a value at a place to what it stands for. Integers, truth values and numbers
may also be written in other ways, as long as nothing is lost.

* `Check.integer`, `Check.boolean`, `Check.number`: the three kinds that convert.
* `Check.model`: an object with given fields, each under either of its two spellings.
-/

namespace ValuedGraph

/-- **A check of a value at a place.** -/
abbrev Check (α : Type) := Location → Value → Checked α

/-- Blanks around a number in a text, separators of records not among them. -/
def isMargin (c : Char) : Bool := isBlank c && !(0x1c ≤ c.toNat && c.toNat ≤ 0x1f)

/-- Drops the zeros in front of a number, but not its last digit. Underscores among them go,
too, and they may stand in front of a minus sign. -/
def dropLeadingZeros : List Char → Option (List Char)
  | '0' :: rest =>
    match rest.dropWhile fun c => c == '0' || c == '_' with
    | [] => some [rest.getLastD '0']
    | c :: tail =>
      if c = '.' then
        some ((rest.takeWhile fun d => d == '0' || d == '_').getLastD '0' :: c :: tail)
      else if isDigit c || c = '-' then some (c :: tail)
      else none
  | c :: rest => if isDigit c then some (c :: rest) else none
  | [] => none

/-- Drops a point with at least one digit after it and none but zeros. -/
def dropPlaces (cs : List Char) : List Char :=
  match cs.dropWhile (· != '.') with
  | _ :: place :: places =>
    if (place :: places).all (· == '0') then cs.takeWhile (· != '.') else cs
  | _ => cs

/-- Removes underscores, none of which may stand at an end or beside another one. -/
def joinUnderscores (cs : List Char) : Option (List Char) :=
  let pieces := cs.splitOn '_'
  if 1 < pieces.length && pieces.any List.isEmpty then none else some pieces.flatten

/-- An integer in plain digits. Only a zero starts with a zero. -/
def plainInteger? (cs : List Char) : Option Int :=
  let (negative, digits) :=
    match cs with
    | '-' :: rest => (true, rest)
    | _ => (false, cs)
  if digits.isEmpty || !digits.all isDigit then none
  else if 1 < digits.length && digits.head? == some '0' then none
  else some (if negative then -(decimalNumber digits : Int) else decimalNumber digits)

/-- Whether a text begins with an integer in plain digits that is too long to be read. -/
def startsTooLong (cs : List Char) : Bool :=
  let (sign, rest) := cs.span (· == '-')
  let digits := rest.takeWhile isDigit
  sign.length ≤ 1 && digits.head? != some '0' &&
    Value.digitLimit < sign.length + digits.length

/-- The integer behind blanks, a sign, zeros on either side and underscores. -/
def looseInteger? (s : String) : Option Int := do
  let cs := stripWhile isMargin s.toList
  let (negative, cs) :=
    match cs with
    | '-' :: rest => (true, rest)
    | '+' :: rest => (false, rest)
    | _ => (false, cs)
  let cs ← joinUnderscores (dropPlaces (← dropLeadingZeros cs))
  let cs := if negative then '-' :: cs else cs
  if startsTooLong cs then none else plainInteger? cs

/-- **The integer that a text writes,** possibly with a sign, zeros on either side and
underscores. Without them, it may be too long to be read. -/
def readInteger (s : String) : Except ProblemKind Int :=
  if startsTooLong s.toList then .error .hugeInteger
  else (looseInteger? s).elim (.error .badInteger) .ok

/-- **The number that a text writes.** -/
def readNumber? (s : String) : Option Float :=
  match plainDouble? (stripWhile isMargin s.toList) with
  | some x => some x
  | none => if s.contains '_' then (joinUnderscores s.toList).bind plainDouble? else none

/-- Whether an integer fits into 64 bits. -/
def isWord (n : Int) : Bool := -0x8000000000000000 ≤ n && n < 0x8000000000000000

/-- The integer that a double is, if it is one of at most 63 bits. -/
def integralFloat? (x : Float) : Option Int :=
  if toIntegral .towardZero x == x then
    match toInt .towardZero x with
    | .ok n => if n.natAbs < 0x8000000000000000 then some n else none
    | .error _ => none
  else none

/-- The words for truth values. -/
def booleanWords : List (String × Bool) :=
  [("0", false), ("off", false), ("f", false), ("false", false), ("n", false), ("no", false),
   ("1", true), ("on", true), ("t", true), ("true", true), ("y", true), ("yes", true)]

namespace Check

variable {α : Type}

/-- Accepts every value. -/
def any : Check Value := fun _ v => pure v

def text : Check String
  | _, .text s => pure s
  | loc, _ => .problem loc .notText

/-- **Integers.** Booleans count as one and zero. -/
def integer : Check Int
  | _, .int n => pure n
  | _, .bool b => pure (if b then 1 else 0)
  | loc, .float x =>
    if x.isNaN || x.isInf then .problem loc .notFinite
    else match integralFloat? x with
      | some n => pure n
      | none => .problem loc (if toIntegral .towardZero x == x then .hugeInteger else .fractional)
  | loc, .text s =>
    match readInteger s with
    | .ok n => pure n
    | .error kind => .problem loc kind
  | loc, _ => .problem loc .notInteger

/-- The truth value of an integer, which is zero or one. -/
def booleanOfInt (loc : Location) (n : Int) : Checked Bool :=
  if n = 0 then pure false else if n = 1 then pure true else .problem loc .badBoolean

/-- **Truth values.** -/
def boolean : Check Bool
  | _, .bool b => pure b
  | loc, .int n => if isWord n then booleanOfInt loc n else .problem loc .notBoolean
  | loc, .float x =>
    match integralFloat? x with
    | some n => booleanOfInt loc n
    | none => .problem loc .notBoolean
  | loc, .text s =>
    match booleanWords.lookup (String.ofList (s.toList.map asciiLower)) with
    | some b => pure b
    | none => .problem loc .badBoolean
  | loc, _ => .problem loc .notBoolean

/-- **Numbers.** Booleans count as one and zero. -/
def number : Check Float
  | _, .float x => pure x
  | _, .bool b => pure (if b then 1.0 else 0.0)
  | loc, .int n =>
    match ofInt n with
    | .ok x => pure x
    | .error _ => .problem loc .notNumber
  | loc, .text s =>
    match readNumber? s with
    | some x => pure x
    | none => .problem loc .badNumber
  | loc, _ => .problem loc .notNumber

/-- Lists, every item checked. -/
def listOf (c : Check α) : Check (List α)
  | loc, .list items => Checked.all (fun (v, i) => c (loc ++ [toString i]) v) items.zipIdx
  | loc, _ => .problem loc .notList

/-- Objects with any names, every value checked. -/
def tableOf (c : Check α) : Check (Table α)
  | loc, .object fields =>
    Table.ofList <$> Checked.all (fun (k, v) => Prod.mk k <$> c (loc ++ [k]) v) fields
  | loc, _ => .problem loc .notTable

/-- Null or a checked value. -/
def nullable (c : Check α) : Check (Option α)
  | _, .null => pure none
  | loc, v => some <$> c loc v

/-- **The first alternative that accepts.** If none does, the problems of all are reported,
each below the name of its alternative. -/
def oneOf (alternatives : List (String × Check α)) : Check α := fun loc v =>
  match alternatives.findSome? fun (name, c) => (c (loc ++ [name]) v).value? with
  | some a => pure a
  | none => .invalid (alternatives.flatMap fun (name, c) => (c (loc ++ [name]) v).problems)

end Check

/-- The spelling of a name with underscores instead of capitals. -/
def underscored (name : String) : String :=
  String.ofList (name.toList.flatMap fun c => if c.isUpper then ['_', c.toLower] else [c])

/-- **An object with given fields** that is being checked. -/
structure Record where
  fields : List (String × Value)
  location : Location

namespace Record

variable {α : Type}

/-- The value of a field, under its name or else under its spelling with underscores. -/
def value? (r : Record) (name : String) : Option Value :=
  r.fields.lookup name <|> r.fields.lookup (underscored name)

/-- Whether a key of the object is one of the given fields. A second spelling of a field is
not. -/
def knows (r : Record) (names : List String) (key : String) : Bool :=
  names.any fun name =>
    name == key || (underscored name == key && !hasField r.fields name)

/-- The keys that belong to no field. -/
def strays (r : Record) (names : List String) : List Problem :=
  (r.fields.filter fun e => !r.knows names e.1).map fun e =>
    ⟨r.location ++ [e.1], .extraField⟩

/-- The value of a field that may be left out. -/
def optional (r : Record) (name : String) (absent : α) (c : Check α) : Checked α :=
  match r.value? name with
  | some v => c (r.location ++ [name]) v
  | none => pure absent

/-- The value of a field that has to be there. -/
def required (r : Record) (name : String) (c : Check α) : Checked α :=
  match r.value? name with
  | some v => c (r.location ++ [name]) v
  | none => .problem (r.location ++ [name]) .missing

end Record

/-- **An object with given fields.** Every other key is a problem. -/
def Check.model {α : Type} (names : List String) (read : Record → Checked α) : Check α
  | loc, .object fields =>
    let r : Record := ⟨fields, loc⟩
    (fun a (_ : Unit) => a) <$> read r <*>
      match r.strays names with
      | [] => pure ()
      | problems => .invalid problems
  | loc, _ => .problem loc .notModel

end ValuedGraph
