import ValuedGraph.Document.Toml.Scalar

/-!
# Reading TOML

A reader for TOML 1.0 documents. A document is a sequence of lines; each adds a value, opens a
table, or opens the next table of a list of tables. `Marks` remember which tables may not be
opened again and which values may not be extended.

* `Toml.parse`: the document of a text, or why it has none.
* `Toml.Marks.has`: whether a mark covers a table.
* `Toml.updateTable`: a change to the table behind a dotted key.
-/

namespace ValuedGraph.Toml

/-- Why a table may not be changed. -/
inductive Mark where
  /-- it is a value written in one line and all below it is closed -/
  | frozen
  /-- it has been opened under its own heading or by a dotted key -/
  | opened
  deriving DecidableEq, Repr

/-- The marks set so far. A `frozen` mark covers everything below its table. -/
structure Marks where
  set : List (List String × Mark)
  /-- marks that take effect at the next heading -/
  pending : List (List String × Mark)

namespace Marks

def none : Marks := ⟨[], []⟩

/-- **Whether a mark covers a table.** The document itself has no marks. -/
def has (m : Marks) (path : List String) (mark : Mark) : Bool :=
  !path.isEmpty && m.set.any fun (p, k) =>
    k == mark && (p == path || (k == .frozen && p.isPrefixOf path))

def add (m : Marks) (path : List String) (mark : Mark) : Marks :=
  { m with set := (path, mark) :: m.set }

def postpone (m : Marks) (path : List String) (mark : Mark) : Marks :=
  { m with pending := (path, mark) :: m.pending }

/-- Lets the postponed marks take effect. -/
def settle (m : Marks) : Marks := ⟨m.pending ++ m.set, []⟩

/-- Removes the marks of a table and of all below it. -/
def clear (m : Marks) (path : List String) : Marks :=
  { m with set := m.set.filter fun (p, _) => !path.isPrefixOf p }

end Marks

/-- The fields of a table. -/
abbrev Fields := List (String × Value)

/-- **Changes the table behind a dotted key,** making tables on the way. If the way may lead
through a list, it goes on in the list's last item. -/
def updateTable (throughLists : Bool) (f : Fields → Option Fields) :
    List String → Fields → Option Fields
  | [], fs => f fs
  | k :: path, fs =>
    match fs.lookup k with
    | none => (updateTable throughLists f path []).map fun inner => Table.put k (.object inner) fs
    | some (.object inner) =>
      (updateTable throughLists f path inner).map fun inner => Table.put k (.object inner) fs
    | some (.list items) =>
      match throughLists, items.getLast? with
      | true, some (.object inner) =>
        (updateTable throughLists f path inner).map fun inner =>
          Table.put k (.list (items.dropLast ++ [.object inner])) fs
      | _, _ => none
    | some _ => none

/-- Gives a new field a value. -/
def addField (k : String) (v : Value) (fs : Fields) : Option Fields :=
  if hasField fs k then none else some (Table.put k v fs)

/-- Opens the next table of a list of tables. -/
def addTable (k : String) (fs : Fields) : Option Fields :=
  match fs.lookup k with
  | none => some (Table.put k (.list [.object []]) fs)
  | some (.list items) => some (Table.put k (.list (items ++ [.object []])) fs)
  | some _ => none

/-- Whether a value has values below it. -/
def isNested : Value → Bool
  | .list _ | .object _ => true
  | _ => false

/-- Skips a comment. Control characters are not allowed in one. -/
def dropComment (cs : List Char) : Option (List Char) :=
  match cs with
  | '#' :: rest =>
    if (rest.takeWhile (· != '\n')).any isControl then none
    else some (rest.dropWhile (· != '\n'))
  | _ => some cs

/-- Skips blanks, line ends and comments between the items of a list. -/
def dropFiller : Nat → List Char → Option (List Char)
  | 0, cs => some cs
  | fuel + 1, cs => do
    let rest ← dropComment (dropSpace cs)
    if rest.length = cs.length then some rest else dropFiller fuel rest

def filler (cs : List Char) : Option (List Char) := dropFiller (cs.length + 1) cs

mutual
/-- A value at the start of a text, and what follows. The fuel bounds the nesting. -/
def value : Nat → List Char → Except DocumentFault (Value × List Char)
  | 0, _ => .error .malformed
  | fuel + 1, cs =>
    match cs with
    | '"' :: _ | '\'' :: _ =>
      (DocumentFault.demand (text cs)).map fun (s, rest) => (.text s, rest)
    | 't' :: 'r' :: 'u' :: 'e' :: rest => .ok (.bool true, rest)
    | 'f' :: 'a' :: 'l' :: 's' :: 'e' :: rest => .ok (.bool false, rest)
    | '[' :: rest => do
      match ← DocumentFault.demand (filler rest) with
      | ']' :: rest => return (.list [], rest)
      | rest => (items fuel rest).map fun (vs, rest) => (.list vs, rest)
    | '\x7b' :: rest =>
      match dropGap rest with
      | '\x7d' :: rest => .ok (.object [], rest)
      | rest => (inlineFields fuel .none [] rest).map fun (fs, rest) => (.object fs, rest)
    | _ =>
      match moment cs with
      | some found => (DocumentFault.demand found).map fun (m, rest) => (.moment m, rest)
      | none => number cs

/-- The items of a list up to its end. -/
def items : Nat → List Char → Except DocumentFault (List Value × List Char)
  | 0, _ => .error .malformed
  | fuel + 1, cs => do
    let (v, rest) ← value fuel cs
    match ← DocumentFault.demand (filler rest) with
    | ',' :: rest =>
      match ← DocumentFault.demand (filler rest) with
      | ']' :: rest => return ([v], rest)
      | rest =>
        let (vs, rest) ← items fuel rest
        return (v :: vs, rest)
    | ']' :: rest => return ([v], rest)
    | _ => .error .malformed

/-- A key, an equals sign and a value. -/
def pair : Nat → List Char → Except DocumentFault ((List String × Value) × List Char)
  | 0, _ => .error .malformed
  | fuel + 1, cs => do
    let (path, rest) ← DocumentFault.demand (key cs)
    match rest with
    | '=' :: rest =>
      let (v, rest) ← value fuel (dropGap rest)
      return ((path, v), rest)
    | _ => .error .malformed

/-- The fields of a table in one line, up to its end. -/
def inlineFields : Nat → Marks → Fields → List Char → Except DocumentFault (Fields × List Char)
  | 0, _, _, _ => .error .malformed
  | fuel + 1, marks, fs, cs => do
    let ((path, v), rest) ← pair fuel cs
    if marks.has path .frozen then .error .malformed
    else
      let fs ← DocumentFault.demand <|
        updateTable false (addField (path.getLastD "") v) path.dropLast fs
      match dropGap rest with
      | '\x7d' :: rest => return (fs, rest)
      | ',' :: rest =>
        let marks := if isNested v then marks.add path .frozen else marks
        inlineFields fuel marks fs (dropGap rest)
      | _ => .error .malformed
end

/-- The state of a document while its lines are read. -/
structure State where
  fields : Fields
  marks : Marks
  /-- the heading that the next lines stand under -/
  heading : List String

/-- The proper prefixes of a dotted key, shortest first, each under a heading. -/
def nests (heading path : List String) : List (List String) :=
  (List.range (path.length - 1)).map fun i => heading ++ path.take (i + 1)

/-- A line with a key and a value. A dotted key may not reach into a table that has been
opened, and opens the tables on its way. -/
def addPair (st : State) (path : List String) (v : Value) : Option State :=
  let ways := nests st.heading path
  let parent := st.heading ++ path.dropLast
  if ways.any fun p => st.marks.has p .opened then none
  else if st.marks.has parent .frozen then none
  else do
    let fields ← updateTable true (addField (path.getLastD "") v) parent st.fields
    let marks := ways.foldl (fun m p => m.postpone p .opened) st.marks
    let marks := if isNested v then marks.add (st.heading ++ path) .frozen else marks
    return { st with fields, marks }

/-- A heading of a table. -/
def openTable (st : State) (path : List String) : Option State :=
  let marks := st.marks.settle
  if marks.has path .opened || marks.has path .frozen then none
  else do
    let fields ← updateTable true some path st.fields
    return ⟨fields, marks.add path .opened, path⟩

/-- A heading of the next table of a list of tables. -/
def openItem (st : State) (path : List String) : Option State :=
  let marks := st.marks.settle
  if marks.has path .frozen then none
  else do
    let fields ← updateTable true (addTable (path.getLastD "")) path.dropLast st.fields
    return ⟨fields, (marks.clear path).add path .opened, path⟩

/-- Whether a key may begin with a character. -/
def startsKey (c : Char) : Bool := isBare c || c == '"' || c == '\''

/-- What one line says, and the rest of the line. -/
def statement (st : State) (cs : List Char) : Except DocumentFault (State × List Char) :=
  match cs with
  | '[' :: '[' :: rest => do
    let (path, rest) ← DocumentFault.demand (key (dropGap rest))
    let st ← DocumentFault.demand (openItem st path)
    match rest with
    | ']' :: ']' :: rest => return (st, rest)
    | _ => .error .malformed
  | '[' :: rest => do
    let (path, rest) ← DocumentFault.demand (key (dropGap rest))
    let st ← DocumentFault.demand (openTable st path)
    match rest with
    | ']' :: rest => return (st, rest)
    | _ => .error .malformed
  | c :: _ =>
    if startsKey c then do
      let ((path, v), rest) ← pair (2 * cs.length + 4) cs
      let st ← DocumentFault.demand (addPair st path v)
      return (st, rest)
    else .ok (st, cs)
  | [] => .ok (st, [])

/-- The lines of a document, one after the other. The fuel bounds their number. -/
def lines : Nat → State → List Char → Except DocumentFault State
  | 0, _, _ => .error .malformed
  | fuel + 1, st, cs =>
    match dropGap cs with
    | [] => .ok st
    | cs => do
      let (st, rest) ← statement st cs
      match ← DocumentFault.demand (dropComment (dropGap rest)) with
      | [] => .ok st
      | '\n' :: rest => lines fuel st rest
      | _ => .error .malformed

/-- A carriage return before a line end is dropped. -/
def joinLineEnds : List Char → List Char
  | '\r' :: '\n' :: rest => '\n' :: joinLineEnds rest
  | c :: rest => c :: joinLineEnds rest
  | [] => []

/-- **The document of a text.** -/
def parse (s : String) : Except DocumentFault Value :=
  let cs := joinLineEnds s.toList
  (lines (cs.length + 1) ⟨[], .none, []⟩ cs).map fun st => .object st.fields

end ValuedGraph.Toml
