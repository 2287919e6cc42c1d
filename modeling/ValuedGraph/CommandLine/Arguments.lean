import ValuedGraph.Files.Load

/-!
# Arguments

The four commands and what can be said to them. Options may stand before and behind the path
of the map; of an option that is given twice, the last one counts. Everything behind `--` is
a path.

* `Request.parse`: the request that arguments make, or why they make none.
-/

namespace ValuedGraph

/-- **What is asked of the program.** -/
inductive Request where
  | check (path : Option String)
  | values (path node scenario : Option String) (hidden : Option Bool)
  | edges (path : Option String) (node : String) (scenario : Option String)
  | exportTo (path : Option String) (output : String) (scenario : Option String)
      (hidden : Option Bool)
  deriving DecidableEq, Repr

/-- The options that take a value. -/
inductive ValueOption where
  | node | scenario | output
  deriving DecidableEq, Repr

namespace ValueOption

/-- The long and the short spelling of an option. -/
def spellings : ValueOption → String × Char
  | node => ("--node", 'n')
  | scenario => ("--scenario", 's')
  | output => ("--output", 'o')

end ValueOption

/-- The options of a command. -/
structure Usage where
  valued : List ValueOption := []
  /-- whether hidden properties can be asked for -/
  hidden : Bool := false

/-- **Why arguments make no request.** -/
inductive Refusal where
  /-- they are not of the form that the command takes -/
  | form
  /-- a path has a null character, which no path can have -/
  | nullInPath
  deriving DecidableEq, Repr

/-- What has been said to a command. -/
structure Given where
  path : Option String := none
  node : Option String := none
  scenario : Option String := none
  output : Option String := none
  hidden : Option Bool := none

namespace Given

/-- Gives an option its value. -/
def set (g : Given) (o : ValueOption) (value : String) : Given :=
  match o with
  | .node => { g with node := some value }
  | .scenario => { g with scenario := some value }
  | .output => { g with output := some value }

/-- Gives the path, which can be given once. -/
def addPath (g : Given) (path : String) : Option Given :=
  match g.path with
  | none => some { g with path := some path }
  | some _ => none

/-- Gives every argument as a path. -/
def addPaths : List String → Given → Option Given
  | [], g => some g
  | path :: rest, g => (g.addPath path).bind (addPaths rest)

end Given

namespace Usage

/-- The option with a long spelling. -/
def long? (u : Usage) (s : String) : Option ValueOption :=
  u.valued.find? fun o => o.spellings.1 == s

/-- The option with a short spelling. -/
def short? (u : Usage) (c : Char) : Option ValueOption :=
  u.valued.find? fun o => o.spellings.2 == c

/-- What the flags for hidden properties say. -/
def flag? (u : Usage) (s : String) : Option Bool :=
  if !u.hidden then none
  else if s = "--hidden" then some true
  else if s = "--no-hidden" then some false
  else none

/-- An option as it is written: the option, and its value if it is written together with
it. -/
def option? (u : Usage) (arg : String) : Option (ValueOption × Option String) :=
  match arg.toList with
  | '-' :: '-' :: _ =>
    match arg.toList.span (· != '=') with
    | (_, []) => (u.long? arg).map fun o => (o, none)
    | (name, _ :: value) =>
      (u.long? (String.ofList name)).map fun o => (o, some (String.ofList value))
  | '-' :: c :: value =>
    (u.short? c).map fun o => (o, if value.isEmpty then none else some (String.ofList value))
  | _ => none

/-- **Reads arguments one after the other.** -/
def read (u : Usage) : List String → Given → Option Given
  | [], g => some g
  | "--" :: rest, g => Given.addPaths rest g
  | arg :: rest, g =>
    if arg.toList.head? != some '-' || arg = "-" then (g.addPath arg).bind (u.read rest)
    else
      match u.flag? arg, u.option? arg with
      | some b, _ => u.read rest { g with hidden := some b }
      | none, some (o, some value) => u.read rest (g.set o value)
      | none, some (o, none) =>
        match rest with
        | value :: rest => u.read rest (g.set o value)
        | [] => none
      | none, none => none

end Usage

namespace Request

/-- What is said to a command by the arguments behind its name. -/
def given (u : Usage) (args : List String) : Except Refusal Given :=
  match u.read args {} with
  | none => .error .form
  | some g =>
    if (g.path.toList ++ g.output.toList).any hasNull then .error .nullInPath else .ok g

/-- An option that has to be given. -/
def required (option : Option String) : Except Refusal String := option.elim (.error .form) .ok

/-- The request of a command, given the arguments behind its name. -/
def ofCommand (name : String) (args : List String) : Except Refusal Request :=
  match name with
  | "check" => do
    let g ← given {} args
    return .check g.path
  | "values" => do
    let g ← given { valued := [.node, .scenario], hidden := true } args
    return .values g.path g.node g.scenario g.hidden
  | "edges" => do
    let g ← given { valued := [.node, .scenario] } args
    return .edges g.path (← required g.node) g.scenario
  | "export" => do
    let g ← given { valued := [.output, .scenario], hidden := true } args
    return .exportTo g.path (← required g.output) g.scenario g.hidden
  | _ => .error .form

/-- **The request that arguments make.** Before the name of the command, only the switch for
more detail has a meaning, and it changes nothing here. -/
def parse : List String → Except Refusal Request
  | "--verbose" :: rest | "--no-verbose" :: rest => parse rest
  | "--" :: name :: args => ofCommand name args
  | name :: args => ofCommand name args
  | [] => .error .form

end Request

end ValuedGraph
