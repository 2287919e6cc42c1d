import ValuedGraph.Text.Printable

/-!
# Quoted texts

Messages quote a text between single quotes, or between double quotes if it holds a single
quote and no double one. Inside, the backslash and the enclosing quote are escaped, line
ends and tabs have short escapes, and what is not printable is written by its code.

* `quoted`: the quoted form of a text.
* `quotedList`: quoted texts in brackets.
-/

namespace ValuedGraph

/-- A lower-case hexadecimal digit. -/
def hexDigit (n : Nat) : Char :=
  if n < 10 then Char.ofNat (0x30 + n) else Char.ofNat (0x57 + n)

/-- The last digits of a number in hexadecimal. -/
def hexDigits : Nat → Nat → List Char
  | 0, _ => []
  | width + 1, n => hexDigits width (n / 16) ++ [hexDigit (n % 16)]

/-- The escape of a character by its code, as short as the code allows. -/
def codeEscape (c : Char) : List Char :=
  let n := c.toNat
  if n < 0x100 then '\\' :: 'x' :: hexDigits 2 n
  else if n < 0x10000 then '\\' :: 'u' :: hexDigits 4 n
  else '\\' :: 'U' :: hexDigits 8 n

/-- One character between the given quotes. -/
def quotedChar (mark c : Char) : List Char :=
  if c = mark || c = '\\' then ['\\', c]
  else if c = '\n' then ['\\', 'n']
  else if c = '\r' then ['\\', 'r']
  else if c = '\t' then ['\\', 't']
  else if isPrintable c then [c]
  else codeEscape c

/-- The quote that encloses a text. -/
def quoteMark (cs : List Char) : Char :=
  if cs.contains '\'' && !cs.contains '"' then '"' else '\''

/-- **The quoted form of a text.** -/
def quoted (s : String) : String :=
  let cs := s.toList
  let mark := quoteMark cs
  String.ofList (mark :: cs.flatMap (quotedChar mark) ++ [mark])

/-- Texts separated by commas. -/
def commaSeparated (ss : List String) : String := ", ".intercalate ss

/-- Quoted texts in brackets. -/
def quotedList (ss : List String) : String := "[" ++ commaSeparated (ss.map quoted) ++ "]"

/-- The order of texts by code points. -/
def textLe (a b : String) : Bool := !(b < a)

/-- Texts in the order of code points. -/
def sortedTexts (ss : List String) : List String := ss.mergeSort textLe

end ValuedGraph
