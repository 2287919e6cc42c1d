import ValuedGraph.Document.Json
import ValuedGraph.Text.Digit

/-!
# Numbers written in texts

Some settings write their numbers in a text. Such a number may be surrounded by blanks, may
have a sign, may use the digits of any script, and may have single underscores between digits.

* `readDouble?`: a double, with `inf`, `infinity` and `nan` in any case.
* `readHex?`: a hexadecimal integer, with an optional `0x` in front.
-/

namespace ValuedGraph

/-- **Removes single underscores between digits.** `previous` is the character before the
text. An underscore anywhere else makes the number malformed. -/
def dropUnderscores (previous : Char) : List Char → Option (List Char)
  | [] => if previous = '_' then none else some []
  | '_' :: rest => if isDigit previous then dropUnderscores '_' rest else none
  | c :: rest =>
    if previous = '_' && !isDigit c then none
    else (dropUnderscores c rest).map (c :: ·)

/-- The ASCII lower case of a character. -/
def asciiLower (c : Char) : Char := c.toLower

/-- An unsigned double: digits with a point among or beside them, and an exponent. -/
def unsignedDouble? (cs : List Char) : Option Float :=
  let before := cs.takeWhile isDigit
  let (after, rest) :=
    match cs.dropWhile isDigit with
    | '.' :: tail => (tail.takeWhile isDigit, tail.dropWhile isDigit)
    | rest => ([], rest)
  if before.isEmpty && after.isEmpty then none
  else
    match rest with
    | [] => some (Json.double false before after 0)
    | _ =>
      match Json.exponent rest with
      | some (e, []) => some (Json.double false before after e)
      | _ => none

/-- A double without blanks and underscores. -/
def plainDouble? (cs : List Char) : Option Float :=
  let (negative, rest) := takeSign cs
  let word := String.ofList (rest.map asciiLower)
  let size :=
    if word = "inf" || word = "infinity" then some infinity
    else if word = "nan" then some nan
    else unsignedDouble? rest
  size.map fun x => if negative then -x else x

/-- **The double that a text writes.** -/
def readDouble? (cs : List Char) : Option Float := do
  let cs ← dropUnderscores ' ' (stripWhile isAsciiBlank (asciiForm cs))
  plainDouble? cs

/-- Hexadecimal digits with single underscores between them: their value so far, and the rest.
`joined` says that the previous character was an underscore. -/
def hexRun (n : Nat) (joined : Bool) : List Char → Option (Nat × List Char)
  | [] => if joined then none else some (n, [])
  | '_' :: rest => if joined then none else hexRun n true rest
  | c :: rest =>
    match hexValue? c with
    | some d => hexRun (16 * n + d) false rest
    | none => if joined then none else some (n, c :: rest)

/-- Drops `0x` and one underscore after it. -/
def dropHexMark : List Char → List Char
  | '0' :: c :: rest =>
    if c = 'x' || c = 'X' then
      match rest with
      | '_' :: rest => rest
      | _ => rest
    else '0' :: c :: rest
  | cs => cs

/-- **The hexadecimal integer that a text writes.** -/
def readHex? (cs : List Char) : Option Int :=
  let (negative, rest) := takeSign ((asciiForm cs).dropWhile isAsciiBlank)
  match dropHexMark rest with
  | [] => none
  | c :: rest =>
    if (hexValue? c).isNone then none
    else
      match hexRun 0 false (c :: rest) with
      | some (n, rest) =>
        if rest.all isAsciiBlank then some (if negative then -(n : Int) else n) else none
      | none => none

end ValuedGraph
