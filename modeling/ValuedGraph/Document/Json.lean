import ValuedGraph.Document.Basic
import ValuedGraph.Table

/-!
# Reading JSON

A reader for JSON documents. Numbers with a fraction or an exponent are doubles, all others
are integers of any size; `NaN`, `Infinity` and `-Infinity` are accepted as doubles. A name
that is written twice in an object keeps its first place and its last value.

* `Json.parse`: the document of a text, or why it has none.
-/

namespace ValuedGraph

/-- The value of a hexadecimal digit. -/
def hexValue? (c : Char) : Option Nat :=
  if '0' ≤ c && c ≤ '9' then some (c.toNat - 0x30)
  else if 'a' ≤ c && c ≤ 'f' then some (c.toNat - 0x57)
  else if 'A' ≤ c && c ≤ 'F' then some (c.toNat - 0x37)
  else none

/-- The number that hexadecimal digits write. -/
def hexNumber? (cs : List Char) : Option Nat :=
  cs.foldlM (fun n c => (hexValue? c).map (16 * n + ·)) 0

/-- Whether a character is an ASCII digit. -/
def isDigit (c : Char) : Bool := '0' ≤ c && c ≤ '9'

/-- The number that ASCII digits write. -/
def decimalNumber (cs : List Char) : Nat :=
  cs.foldl (fun n c => 10 * n + (c.toNat - 0x30)) 0

/-- A leading sign, if any, and the rest. -/
def takeSign : List Char → Bool × List Char
  | '-' :: rest => (true, rest)
  | '+' :: rest => (false, rest)
  | cs => (false, cs)

namespace Json

/-- The blanks between the parts of a document. -/
def isBlank (c : Char) : Bool := c == ' ' || c == '\t' || c == '\n' || c == '\r'

def dropBlank (cs : List Char) : List Char := cs.dropWhile isBlank

/-- The characters that stand for others after a backslash. -/
def shortEscape? : Char → Option Char
  | '"' => some '"'
  | '\\' => some '\\'
  | '/' => some '/'
  | 'b' => some (Char.ofNat 8)
  | 'f' => some (Char.ofNat 12)
  | 'n' => some '\n'
  | 'r' => some '\r'
  | 't' => some '\t'
  | _ => none

/-- The code units of a text up to its closing quote, and what follows. Control characters
have to be escaped. -/
def units : List Char → Option (List Nat × List Char)
  | [] => none
  | '"' :: rest => some ([], rest)
  | '\\' :: 'u' :: a :: b :: c :: d :: rest => do
    let n ← hexNumber? [a, b, c, d]
    let (us, rest) ← units rest
    return (n :: us, rest)
  | '\\' :: c :: rest => do
    let e ← shortEscape? c
    let (us, rest) ← units rest
    return (e.toNat :: us, rest)
  | c :: rest =>
    if c.toNat < 0x20 || c = '\\' then none
    else do
      let (us, rest) ← units rest
      return (c.toNat :: us, rest)

/-- Whether a code unit is the first half of a pair. -/
def isHighHalf (n : Nat) : Bool := 0xd800 ≤ n && n < 0xdc00

/-- Whether a code unit is the second half of a pair. -/
def isLowHalf (n : Nat) : Bool := 0xdc00 ≤ n && n < 0xe000

/-- Joins pairs of code units. A half that stands alone becomes the replacement character. -/
def joinPairs : List Nat → List Char
  | [] => []
  | [n] => [if isHighHalf n || isLowHalf n then Char.ofNat 0xfffd else Char.ofNat n]
  | n :: m :: rest =>
    if isHighHalf n && isLowHalf m then
      Char.ofNat (0x10000 + (n - 0xd800) * 0x400 + (m - 0xdc00)) :: joinPairs rest
    else
      (if isHighHalf n || isLowHalf n then Char.ofNat 0xfffd else Char.ofNat n) ::
        joinPairs (m :: rest)

/-- The text after an opening quote. -/
def text (cs : List Char) : Option (String × List Char) :=
  (units cs).map fun (us, rest) => (String.ofList (joinPairs us), rest)

/-- The digits of a whole part: a zero alone, or digits that do not begin with zero. -/
def whole : List Char → Option (List Char × List Char)
  | '0' :: rest => some (['0'], rest)
  | cs =>
    let ds := cs.takeWhile isDigit
    if ds.isEmpty then none else some (ds, cs.dropWhile isDigit)

/-- The digits after a point. Without digits the point is not part of the number. -/
def places : List Char → Option (List Char × List Char)
  | '.' :: rest =>
    let ds := rest.takeWhile isDigit
    if ds.isEmpty then none else some (ds, rest.dropWhile isDigit)
  | _ => none

/-- An exponent. Without digits it is not part of the number. -/
def exponent : List Char → Option (Int × List Char)
  | c :: rest =>
    if c = 'e' || c = 'E' then
      let (negative, rest) := takeSign rest
      let ds := rest.takeWhile isDigit
      if ds.isEmpty then none
      else
        let n : Int := decimalNumber ds
        some (if negative then -n else n, rest.dropWhile isDigit)
    else none
  | [] => none

/-- The double with a sign, the digits before and after the point, and an exponent. -/
def double (negative : Bool) (wholePart places : List Char) (exponent : Int) : Float :=
  let size := (Decimal.mk (decimalNumber (wholePart ++ places)) (exponent - places.length)).toFloat
  if negative then -size else size

/-- A number. -/
def number (negative : Bool) (cs : List Char) : Except DocumentFault (Value × List Char) := do
  let (ds, rest) ← DocumentFault.demand (whole cs)
  let sized (n : Nat) : Int := if negative then -(n : Int) else n
  match places rest with
  | some (fs, rest) =>
    match exponent rest with
    | some (e, rest) => return (.float (double negative ds fs e), rest)
    | none => return (.float (double negative ds fs 0), rest)
  | none =>
    match exponent rest with
    | some (e, rest) => return (.float (double negative ds [] e), rest)
    | none => return (← DocumentFault.withinDigits (sized (decimalNumber ds)), rest)

/-- The rest after a word. -/
def afterWord (word : String) (cs : List Char) : Option (List Char) :=
  if word.toList.isPrefixOf cs then some (cs.drop word.length) else none

/-- A value that is neither a list nor an object nor a text. -/
def simple (cs : List Char) : Except DocumentFault (Value × List Char) :=
  let words : List (String × Value) :=
    [("null", .null), ("true", .bool true), ("false", .bool false), ("NaN", .float nan),
      ("Infinity", .float infinity), ("-Infinity", .float (-infinity))]
  match words.findSome? fun (w, v) => (afterWord w cs).map fun rest => (v, rest) with
  | some found => .ok found
  | none =>
    match cs with
    | '-' :: rest => number true rest
    | _ => number false cs

/-- Fields in the order they were written; of fields of one name, the first place and the
last value. -/
def distinctFields (fields : List (String × Value)) : List (String × Value) :=
  fields.foldl (fun fs e => Table.put e.1 e.2 fs) []

mutual
/-- A value at the start of a text, and what follows. The fuel bounds the nesting. -/
def value : Nat → List Char → Except DocumentFault (Value × List Char)
  | 0, _ => .error .malformed
  | fuel + 1, cs =>
    match cs with
    | '"' :: rest => (DocumentFault.demand (text rest)).map fun (s, rest) => (.text s, rest)
    | '[' :: rest =>
      match dropBlank rest with
      | ']' :: rest => .ok (.list [], rest)
      | rest => (items fuel rest).map fun (vs, rest) => (.list vs, rest)
    | '\x7b' :: rest =>
      match dropBlank rest with
      | '\x7d' :: rest => .ok (.object [], rest)
      | rest => (members fuel rest).map fun (fs, rest) => (.object (distinctFields fs), rest)
    | _ => simple cs

/-- The items of a list up to its end. -/
def items : Nat → List Char → Except DocumentFault (List Value × List Char)
  | 0, _ => .error .malformed
  | fuel + 1, cs => do
    let (v, rest) ← value fuel cs
    match dropBlank rest with
    | ',' :: rest =>
      let (vs, rest) ← items fuel (dropBlank rest)
      return (v :: vs, rest)
    | ']' :: rest => return ([v], rest)
    | _ => .error .malformed

/-- The fields of an object up to its end. -/
def members : Nat → List Char → Except DocumentFault (List (String × Value) × List Char)
  | 0, _ => .error .malformed
  | fuel + 1, cs =>
    match cs with
    | '"' :: rest => do
      let (k, rest) ← DocumentFault.demand (text rest)
      match dropBlank rest with
      | ':' :: rest =>
        let (v, rest) ← value fuel (dropBlank rest)
        match dropBlank rest with
        | ',' :: rest =>
          let (fs, rest) ← members fuel (dropBlank rest)
          return ((k, v) :: fs, rest)
        | '\x7d' :: rest => return ([(k, v)], rest)
        | _ => .error .malformed
      | _ => .error .malformed
    | _ => .error .malformed
end

/-- **The document of a text.** Every step of the reader but every other one takes a
character, so twice the length bounds the nesting. -/
def parse (s : String) : Except DocumentFault Value := do
  let cs := dropBlank s.toList
  let (v, rest) ← value (2 * cs.length + 2) cs
  if (dropBlank rest).isEmpty then return v else .error .malformed

end Json

end ValuedGraph
