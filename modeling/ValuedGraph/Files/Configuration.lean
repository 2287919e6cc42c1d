import ValuedGraph.Files.Load

/-!
# Configuration

A project may say in its `pyproject.toml` which map, which scenario and which properties a
command takes if it is not told. The file that counts is the nearest one in the working
directory or around it.

* `Configuration.ofSection`: the settings in a section.
* `Host.configuration`: the settings that count in the working directory.
-/

namespace ValuedGraph

/-- **What a command takes if it is not told.** -/
structure Configuration where
  map : Option String := none
  scenario : Option String := none
  includeHidden : Bool := false
  /-- the directory of the file that the settings are from -/
  projectRoot : Option String := none
  deriving Repr

/-- Why there are no settings. -/
inductive ConfigError where
  | malformed (path : String)
  | unknownKeys (keys : List String)
  | badMap
  | badScenario
  | badIncludeHidden
  /-- a command was given no map, and neither do the settings name one -/
  | noMap
  /-- something that should be a table is of another kind -/
  | noFields (kind : String)
  /-- the section is of a kind that has no parts -/
  | noParts (kind : String)
  /-- a part of the section is of a kind that cannot be told from others -/
  | notComparedAsKey (kind : String)
  /-- a part of the section is of a kind that cannot be written as a key -/
  | notWrittenAsKey (kind : String)
  /-- parts of the section are of kinds that have no common order -/
  | noCommonOrder (first second : String)
  /-- the section is a list of the right keys -/
  | keysWithoutValues
  | notText (fault : Utf8Fault)
  /-- an integer in the file has more digits than are read -/
  | longInteger (digits : Nat)
  deriving DecidableEq, Repr

/-- The wording of an error. -/
def ConfigError.message : ConfigError → String
  | malformed path => s!"Invalid TOML in {path}"
  | unknownKeys keys => "Unknown keys in [tool.adjmap]: " ++ commaSeparated keys
  | badMap => "Invalid [tool.adjmap].map: expected string path"
  | badScenario => "Invalid [tool.adjmap].scenario: expected string"
  | badIncludeHidden => "Invalid [tool.adjmap].include-hidden: expected boolean"
  | noMap => "No map given: pass a path or set [tool.adjmap].map in pyproject.toml"
  | noFields kind => s!"'{kind}' object has no attribute 'get'"
  | noParts kind => s!"'{kind}' object is not iterable"
  | notComparedAsKey kind => s!"unhashable type: '{kind}'"
  | notWrittenAsKey kind => s!"sequence item 0: expected str instance, {kind} found"
  | noCommonOrder first second =>
    s!"'<' not supported between instances of '{first}' and '{second}'"
  | keysWithoutValues => "list indices must be integers or slices, not str"
  | notText fault => fault.message
  | longInteger digits => DocumentFault.longIntegerMessage digits

/-- **Whether an error is a mistake in the settings,** as opposed to a file or a section of a
kind that settings never have. -/
def ConfigError.isMistake : ConfigError → Bool
  | malformed _ | unknownKeys _ | badMap | badScenario | badIncludeHidden | noMap => true
  | _ => false

namespace Configuration

/-- The name of the file that may hold settings. -/
def fileName : String := "pyproject.toml"

/-- The keys of a section that mean something. -/
def knownKeys : List String := ["map", "scenario", "include-hidden"]

/-- Whether a section says nothing, so that it counts as absent. -/
def saysNothing : Value → Bool
  | .null | .bool false | .int 0 | .text "" | .list [] | .object [] => true
  | .float x => x == 0.0
  | _ => false

/-- The number of a value that can be compared with numbers. -/
def orderNumber? : Value → Option Float
  | .bool b => some (truth b)
  | .int n => some (Float.ofInt n)
  | .float x => some x
  | _ => none

/-- Whether two keys have a common order. -/
def haveOrder (a b : Value) : Bool :=
  a.kind == b.kind || ((orderNumber? a).isSome && (orderNumber? b).isSome)

/-- The first of the smallest of some keys. -/
def least (key : Value) : List Value → Value
  | [] => key
  | other :: rest =>
    match orderNumber? key, orderNumber? other with
    | some x, some y => least (if y < x then other else key) rest
    | _, _ => least key rest

/-- The parts of a section: the names of its fields, the characters of a text or the items of a
list. -/
def partsOf : Value → Except ConfigError (List Value)
  | .object fields => .ok (fields.map fun e => .text e.1)
  | .text s => .ok (s.toList.map fun c => .text c.toString)
  | .list items =>
    match items.find? fun v => v matches .list _ | .object _ with
    | some v => .error (.notComparedAsKey v.kind)
    | none => .ok items
  | v => .error (.noParts v.kind)

/-- Whether a part of a section is one of the keys that mean something. -/
def isKnown : Value → Bool
  | .text s => knownKeys.contains s
  | _ => false

/-- The text of a key. -/
def keyText? : Value → Option String
  | .text s => some s
  | _ => none

/-- The error of keys that mean nothing, if there are any. -/
def unknownError? : List Value → Option ConfigError
  | [] => none
  | key :: keys =>
    some <|
      match (key :: keys).mapM keyText? with
      | some names => .unknownKeys (sortedTexts names.eraseDups)
      | none =>
        match ((key :: keys).zip keys).find? fun (a, b) => !haveOrder a b with
        | some (a, b) => .noCommonOrder b.kind a.kind
        | none => .notWrittenAsKey (least key keys).kind

/-- The map that a section names, seen from the directory of its file. -/
def mapOf (root : String) : Option Value → Except ConfigError (Option String)
  | none => .ok none
  | some (.text path) => .ok (some (Path.join root path))
  | some _ => .error .badMap

def scenarioOf : Option Value → Except ConfigError (Option String)
  | none => .ok none
  | some (.text name) => .ok (some name)
  | some _ => .error .badScenario

def includeHiddenOf : Option Value → Except ConfigError Bool
  | none => .ok false
  | some (.bool b) => .ok b
  | some _ => .error .badIncludeHidden

/-- The error of a section that is a list of keys without values. -/
def listError (items : List Value) : ConfigError :=
  if items.any fun v => keyText? v == some "map" then .keysWithoutValues else .noFields "list"

/-- **The settings in a section.** -/
def ofSection (root : String) (v : Value) : Except ConfigError Configuration := do
  if saysNothing v then return { projectRoot := some root }
  match unknownError? ((← partsOf v).filter fun k => !isKnown k) with
  | some error => throw error
  | none => pure ()
  match v with
  | .list items => throw (listError items)
  | _ => pure ()
  let map ← mapOf root (v.field? "map")
  let scenario ← scenarioOf (v.field? "scenario")
  let includeHidden ← includeHiddenOf (v.field? "include-hidden")
  return { map, scenario, includeHidden, projectRoot := some root }

/-- The settings in a document. -/
def ofDocument (root : String) (v : Value) : Except ConfigError Configuration :=
  match v.field? "tool" with
  | none => .ok { projectRoot := some root }
  | some (.object fields) => ofSection root ((fields.lookup "adjmap").getD (.object []))
  | some tool => .error (.noFields tool.kind)

/-- The settings in the text of a file. -/
def ofText (root text : String) : Except ConfigError Configuration :=
  match Toml.parse text with
  | .error .malformed => .error (.malformed (Path.join root fileName))
  | .error (.longInteger digits) => .error (.longInteger digits)
  | .ok v => ofDocument root v

end Configuration

namespace Host

variable {m : Type → Type} [Monad m]

/-- The settings of the first directory of a list that has the file. -/
def firstConfiguration (host : Host m) :
    List String → m (Except ConfigError Configuration)
  | [] => return .ok {}
  | directory :: rest => do
    let path := Path.join directory Configuration.fileName
    match ← host.read path with
    | none => host.firstConfiguration rest
    | some bytes =>
      match readUtf8 bytes with
      | .ok text => return Configuration.ofText directory text
      | .error fault => return .error (.notText fault)

/-- **The settings that count in the working directory.** -/
def configuration (host : Host m) : m (Except ConfigError Configuration) := do
  host.firstConfiguration (Path.enclosing (← host.workingDirectory))

end Host

end ValuedGraph
