import ValuedGraph.Terminal.Cells
import ValuedGraph.Terminal.Markup
import ValuedGraph.Text.Lines

/-!
# Layout

How texts come out on a terminal. A tab leads to the next cell whose number is a multiple of
eight. A text stands on as many lines as it has line feeds and one; a title stands on one. The
columns of a grid are as wide as their widest line, tabs not counted; a text that tabs make
wider than its column is broken between words, and a word that is still too wide is cut.

* `expandTabs`: a line with blanks for its tabs.
* `textLines`, `titleLine`: the lines of a text and of a title.
* `gridLines`: the lines of a grid.
-/

namespace ValuedGraph

/-- The distance of the cells that tabs lead to. -/
def tabWidth : Nat := 8

/-- Blanks for tabs, from a cell on. -/
def expandTabsFrom (cell : Nat) : List Char → List Char
  | [] => []
  | c :: rest =>
    if c = '\t' then
      let next := (cell / tabWidth + 1) * tabWidth
      List.replicate (next - cell) ' ' ++ expandTabsFrom next rest
    else c :: expandTabsFrom (cell + cellWidth c) rest

/-- **A line with blanks for its tabs.** -/
def expandTabs (cs : List Char) : List Char := expandTabsFrom 0 cs

/-- **The lines of a text.** -/
def textLines (cs : List Char) : List (List Char) := (cs.splitOn '\n').map expandTabs

/-- **The line of a title.** -/
def titleLine (cs : List Char) : List Char :=
  expandTabs (cs.map fun c => if c = '\n' then ' ' else c)

/-- The words of a text with the blanks behind them. Blanks at the start belong to the first
word. The fuel bounds the length of the text. -/
def wordsWithBlanks : Nat → List Char → List (List Char)
  | 0, _ => []
  | fuel + 1, cs =>
    let before := cs.takeWhile isBlank
    let rest := cs.drop before.length
    let word := rest.takeWhile fun c => !isBlank c
    let rest := rest.drop word.length
    let after := rest.takeWhile isBlank
    if word.isEmpty then []
    else (before ++ word ++ after) :: wordsWithBlanks fuel (rest.drop after.length)

/-- A text without the blanks at its end. -/
def stripEnd (cs : List Char) : List Char := (cs.reverse.dropWhile isBlank).reverse

/-- Fills lines of a width with words, given what stands on the first line and its cells. -/
def fillLines (width : Nat) : List (List Char) → List Char → Nat → List (List Char)
  | [], line, _ => [line]
  | word :: rest, line, cells =>
    if cells + cellCount (stripEnd word) ≤ width then
      fillLines width rest (line ++ word) (cells + cellCount word)
    else if line.isEmpty then fillLines width rest word (cellCount word)
    else line :: fillLines width rest word (cellCount word)

/-- Drops blanks at the end of a line, as many as it has characters beyond a width. -/
def dropExcess (width : Nat) (line : List Char) : List Char :=
  let blanks := line.length - (stripEnd line).length
  line.take (line.length - min blanks (line.length - width))

/-- Cuts a line that is wider than a width, and says so with three points. -/
def cutLine (width : Nat) (line : List Char) : List Char :=
  if cellCount line ≤ width then line else cutCells line (width - 1) ++ ['…']

/-- **A line broken between words** so that it fits a width. -/
def wrapLine (width : Nat) (line : List Char) : List (List Char) :=
  let words := wordsWithBlanks line.length line
  let lines := if words.isEmpty then [line] else fillLines width words [] 0
  lines.map fun l => cutLine width (dropExcess width l)

/-- The cells of the widest line of a text, tabs not counted. -/
def measure (cs : List Char) : Nat := ((splitLines cs).map cellCount).foldl max 0

/-- The widths of the columns of a grid. -/
def columnWidths : List (List (List Char)) → List Nat
  | [] => []
  | row :: rest => rest.foldl (fun ws r => List.zipWith max ws (r.map measure)) (row.map measure)

/-- The lines of a row whose cells have widths. -/
def rowLines (widths : List Nat) (row : List (List Char)) : List (List (List Char)) :=
  let cells := List.zipWith (fun width cs => (textLines cs).flatMap (wrapLine width)) widths row
  let height := (cells.map List.length).foldl max 0
  (List.range height).map fun i => cells.map fun lines => lines.getD i []

/-- **The lines of a grid,** row after row. -/
def gridLines (rows : List (List (List Char))) : List (List (List Char)) :=
  rows.flatMap (rowLines (columnWidths rows))

end ValuedGraph
