import ValuedGraph.Document.Json

/-!
# Paths

Paths are texts with parts between slashes. Parts that say nothing vanish: empty ones and
single points. A part of two points stays, since what it means depends on the files.

* `Path.normalize`: a path without parts that say nothing.
* `Path.join`: a path seen from a directory.
* `Path.suffix`: the end of the last part, from its last point on.
-/

namespace ValuedGraph

namespace Path

/-- Whether a path starts at the root of all files. -/
def isAbsolute (path : String) : Bool := path.toList.head? == some '/'

/-- How a path starts: with one slash, with exactly two, or with none. -/
def start (path : String) : String :=
  match path.toList with
  | '/' :: '/' :: '/' :: _ => "/"
  | '/' :: '/' :: _ => "//"
  | '/' :: _ => "/"
  | _ => ""

/-- The parts of a path that say something. -/
def parts (path : String) : List String :=
  ((path.toList.splitOn '/').map String.ofList).filter fun p => p != "" && p != "."

/-- The path of some parts. -/
def ofParts (start : String) (parts : List String) : String :=
  let text := start ++ "/".intercalate parts
  if text = "" then "." else text

/-- **A path without parts that say nothing.** -/
def normalize (path : String) : String := ofParts (start path) (parts path)

/-- **A path seen from a directory.** An absolute path stays what it is. -/
def join (directory path : String) : String :=
  if isAbsolute path then normalize path else normalize (directory ++ "/" ++ path)

/-- The last part of a path. -/
def name (path : String) : String := (parts path).getLastD ""

/-- **The suffix of a path,** with its point. A point at either end of the last part starts no
suffix. -/
def suffix (path : String) : String :=
  let cs := (name path).toList
  let tail := (cs.reverse.takeWhile (· != '.')).reverse
  if tail.isEmpty || cs.length ≤ tail.length + 1 then "" else String.ofList ('.' :: tail)

/-- A directory and all directories around it, the nearest first. -/
def enclosing (directory : String) : List String :=
  let ps := parts directory
  (List.range (ps.length + 1)).map fun k => ofParts (start directory) (ps.take (ps.length - k))

end Path

end ValuedGraph
