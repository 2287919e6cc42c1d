import ValuedGraph.Definition.Resolution
import ValuedGraph.Document.Toml.Basic
import ValuedGraph.Files.Path
import ValuedGraph.Text.Utf8

/-!
# Loading definitions

Definitions are kept in JSON and TOML files, told apart by their suffix. What loading needs
of the world is a `Host`, so that it can be run on any collection of files.

* `Host.loadDocument`: the document in a file, which has to be an object.
-/

namespace ValuedGraph

/-- Why a file cannot be written. -/
inductive WriteError where
  /-- there is a directory of that name -/
  | isDirectory (path : String)
  /-- the directory of the file does not exist -/
  | noDirectory (path : String)
  /-- a file stands where the directory should be -/
  | notDirectory (path : String)
  /-- a part of the path is longer than a name may be -/
  | longName (path : String)
  deriving DecidableEq, Repr

/-- The wording of a write error. -/
def WriteError.message : WriteError → String
  | isDirectory path => s!"[Errno 21] Is a directory: {quoted path}"
  | noDirectory path => s!"[Errno 2] No such file or directory: {quoted path}"
  | notDirectory path => s!"[Errno 20] Not a directory: {quoted path}"
  | longName path => s!"[Errno 36] File name too long: {quoted path}"

/-- **The files a program can see.** -/
structure Host (m : Type → Type) where
  /-- the directory that relative paths start from -/
  workingDirectory : m String
  /-- the bytes of a file, if it can be read -/
  read : String → m (Option ByteArray)
  /-- gives a file a text -/
  write : String → String → m (Except WriteError Unit)

/-- The formats of definitions. -/
inductive FileFormat where
  | json | toml
  deriving DecidableEq, Repr

namespace FileFormat

/-- The suffix of a format. -/
def suffix : FileFormat → String
  | json => ".json"
  | toml => ".toml"

/-- The name of a format. -/
def name : FileFormat → String
  | json => "JSON"
  | toml => "TOML"

def all : List FileFormat := [json, toml]

/-- The format with a suffix. -/
def ofSuffix? (s : String) : Option FileFormat := all.find? fun f => f.suffix == s

/-- The document that a text writes in a format. -/
def parse : FileFormat → String → Except DocumentFault Value
  | json => Json.parse
  | toml => Toml.parse

end FileFormat

/-- Why a file holds no document of a definition. -/
inductive LoadError where
  | unsupported (suffix path : String)
  | unreadable (path : String)
  | malformed (format : FileFormat) (path : String)
  | notObject (path : String)
  /-- an integer in the file has more digits than are read -/
  | longInteger (digits : Nat)
  /-- a null character in the path, which no path can have -/
  | nullInPath
  deriving DecidableEq, Repr

/-- The wording of a path that no path can be. -/
def nullInPathMessage : String := "embedded null byte"

/-- Whether a path has a null character. -/
def hasNull (path : String) : Bool := path.toList.contains (Char.ofNat 0)

/-- The wording of a load error. -/
def LoadError.message : LoadError → String
  | unsupported suffix path =>
    s!"Unsupported map file type {quoted suffix} for {path} (expected one of " ++
      commaSeparated (FileFormat.all.map FileFormat.suffix) ++ ")"
  | unreadable path => s!"Could not read map file {path}"
  | malformed format path => s!"Invalid {format.name} in {path}"
  | notObject path => s!"{path}: a map definition must be an object at the top level"
  | longInteger digits => DocumentFault.longIntegerMessage digits
  | nullInPath => nullInPathMessage

/-- **Whether a load error is a mistake of the author,** to whom it is reported. -/
def LoadError.isMistake : LoadError → Bool
  | longInteger _ | nullInPath => false
  | _ => true

/-- The document that the bytes of a file write, which has to be an object. -/
def documentOfBytes (format : FileFormat) (path : String) (bytes : Option ByteArray) :
    Except LoadError Value :=
  match bytes.map readUtf8 with
  | none | some (.error _) => .error (.unreadable path)
  | some (.ok text) =>
    match format.parse text with
    | .error .malformed => .error (.malformed format path)
    | .error (.longInteger digits) => .error (.longInteger digits)
    | .ok (.object fields) => .ok (.object fields)
    | .ok _ => .error (.notObject path)

/-- **The document in a file,** whose suffix tells its format. -/
def Host.loadDocument {m : Type → Type} [Monad m] (host : Host m) (path : String) :
    m (Except LoadError Value) :=
  let path := Path.normalize path
  let suffix := lowercase (Path.suffix path)
  match FileFormat.ofSuffix? suffix with
  | none => return .error (.unsupported suffix path)
  | some format =>
    if hasNull path then return .error .nullInPath
    else return documentOfBytes format path (← host.read path)

end ValuedGraph
