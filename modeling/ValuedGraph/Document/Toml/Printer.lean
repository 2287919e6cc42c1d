import ValuedGraph.Document.Toml.Scalar
import ValuedGraph.Text.Quoted

/-!
# Writing TOML

Texts, keys and tables of numbers as TOML writes them.

* `Toml.textLiteral`: a text in double quotes.
* `Toml.keyText`: a key, quoted only if it needs to be.
* `Toml.tableText`: a table with its heading.
-/

namespace ValuedGraph

namespace Toml

/-- A character of a text in double quotes. -/
def textChar (c : Char) : List Char :=
  match c with
  | '"' => ['\\', '"']
  | '\\' => ['\\', '\\']
  | '\n' => ['\\', 'n']
  | '\r' => ['\\', 'r']
  | '\x08' => ['\\', 'b']
  | '\x0c' => ['\\', 'f']
  | c => if isControl c then '\\' :: 'u' :: hexDigits 4 c.toNat else [c]

/-- **A text in double quotes.** -/
def textLiteral (s : String) : String :=
  String.ofList ('"' :: s.toList.flatMap textChar ++ ['"'])

/-- **A key,** bare if it can be. -/
def keyText (s : String) : String :=
  if s != "" && s.toList.all isBare then s else textLiteral s

/-- A line that gives a key a value. -/
def assignment (key value : String) : String := s!"{keyText key} = {value}\n"

/-- **A table of numbers under its heading.** -/
def tableText (path : List String) (entries : List (String × Float)) : String :=
  "[" ++ ".".intercalate (path.map keyText) ++ "]\n" ++
    String.join (entries.map fun (k, x) => assignment k (fullText x))

end Toml

end ValuedGraph
