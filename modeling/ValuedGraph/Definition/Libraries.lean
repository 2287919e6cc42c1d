import ValuedGraph.Definition.Error

/-!
# Libraries

Definitions import libraries, which may import others. The core library carries the display
settings that every definition starts from, and comes before all others.

* `Libraries.build`: the libraries a definition may import.
* `Libraries.importOrder`: the libraries to merge, each after those it imports.
* `Bundle.overlay`: a bundle whose entries are replaced by those of another one.
-/

namespace ValuedGraph

/-- The libraries that can be imported. -/
abbrev Libraries := Table Library

namespace Libraries

/-- The name of the library that every definition imports. -/
def coreName : String := "core"

/-- A color as it is written in display settings. -/
def writtenColor (text : String) : Value := .object [("color", .text text)]

/-- The display settings that every definition starts from. None of them has a number for
each edge, so edges with the same type and ref are drawn as one. -/
def coreDisplay : DisplayDraft where
  node := .ofList
    [("radius", .int 6), ("color", writtenColor "#333"), ("opacity", .float 1.0),
     ("strokeWidth", .int 0), ("strokeColor", writtenColor "#333"),
     ("strokeOpacity", .float 1.0)]
  edge := .ofList
    [("width", .float 1.5), ("color", writtenColor "#555"), ("opacity", .float 0.4),
     ("distinct", .bool false)]
  edgeCombiner := .ofList
    [("width", .object [("combine", .text "sum"), ("value", .text "input")]),
     ("color", writtenColor "#555"), ("opacity", .float 0.4)]

/-- The library that every definition imports. -/
def core : Library where
  description := "Base display settings every map starts from."
  imports := []
  bundle := { display := coreDisplay }

/-- The core library alone. -/
def standard : Libraries := Table.ofList [(coreName, core)]

/-- Adds the libraries of an object. -/
def add (libraries : Libraries) : List (String × Value) → Except DefinitionError Libraries
  | [] => .ok libraries
  | (name, v) :: rest =>
    match Library.check v with
    | .valid library => add (libraries.insert name library) rest
    | .invalid problems => .error (.badLibrary name (Problem.sorted problems))

/-- **The libraries of a list of objects,** beside the core library. Later ones win. -/
def build (objects : List (List (String × Value))) : Except DefinitionError Libraries :=
  objects.foldlM add standard

/-- Appends a library to an order, behind the libraries it imports. `chain` are the libraries
on the way to it. The fuel bounds the length of the chain, whose names are distinct. -/
def visit (libraries : Libraries) :
    Nat → List String → List String → String → Except DefinitionError (List String)
  | fuel, chain, order, name =>
    if order.contains name then .ok order
    else if chain.contains name then .error (.importCycle (chain ++ [name]))
    else
      match libraries.get? name, fuel with
      | none, _ => .error (.unknownLibrary name)
      | some _, 0 => .error (.importCycle (chain ++ [name]))
      | some library, fuel + 1 => do
        let order ← library.imports.foldlM (visit libraries fuel (chain ++ [name])) order
        return order ++ [name]

/-- **The libraries to merge:** the core library and all that are imported, each once and
after those it imports itself. -/
def importOrder (libraries : Libraries) (imports : List String) :
    Except DefinitionError (List String) :=
  (coreName :: imports).foldlM (visit libraries (libraries.size + 1) []) []

end Libraries

/-- Display settings overlaid with others. -/
def DisplayDraft.overlay (a b : DisplayDraft) : DisplayDraft where
  node := a.node.overlay b.node
  edge := a.edge.overlay b.edge
  edgeCombiner := a.edgeCombiner.overlay b.edgeCombiner

/-- **A bundle overlaid with another one,** whose entries win as a whole. -/
def Bundle.overlay (a b : Bundle) : Bundle where
  properties := a.properties.overlay b.properties
  root := a.root.overlay b.root
  tags := a.tags.overlay b.tags
  display := a.display.overlay b.display

end ValuedGraph
