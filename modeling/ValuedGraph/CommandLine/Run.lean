import ValuedGraph.CommandLine.Arguments
import ValuedGraph.Files.Configuration
import ValuedGraph.Model.Report
import ValuedGraph.Terminal.Layout

/-!
# Commands

What the program answers to a request: lines for its two outputs, and how it ends. Mistakes of
an author or a user are reported in a line of their own; other failures escape. Names that an
author chose are printed as they are, the paths of files with their markup.

* `Host.run`: the outcome of a list of arguments.
-/

namespace ValuedGraph

/-- **A line of output:** a text, or one line of a row of a grid. -/
inductive Line where
  | text (s : String)
  | row (cells : List String)
  deriving DecidableEq, Repr

/-- A line as it is printed, with bars around the cells of a row. -/
def Line.print : Line → String
  | text s => s
  | row cells => "│ " ++ " │ ".intercalate cells ++ " │"

/-- The lines that a text comes out on. -/
def Line.ofText (cs : List Char) : List Line := (textLines cs).map fun l => .text (String.ofList l)

/-- The lines that a grid comes out on. -/
def Line.ofGrid (rows : List (List (List Char))) : List Line :=
  (gridLines rows).map fun row => .row (row.map String.ofList)

/-- **What has been written,** and what expressions have logged. -/
structure Transcript where
  out : List Line := []
  err : List Line := []
  log : List LogEntry := []

/-- Why a command cannot be carried out. -/
inductive CommandError where
  | config (error : ConfigError)
  | load (error : LoadError)
  | draft (failure : DraftFailure)
  | unacceptable (error : AcceptanceError)
  | read (failure : ReadFailure)
  | unknownNode (id : String)
  | write (error : WriteError)
  | markup (error : MarkupError)
  /-- a null character in a path that was given -/
  | nullInPath

namespace CommandError

/-- The report of an error, if it is one that is reported. -/
def report? : CommandError → Option String
  | config error => if error.isMistake then some error.message else none
  | load error => if error.isMistake then some error.message else none
  | draft (.rejected error) => some error.message
  | draft (.numeric _) => none
  | unacceptable error => some error.message
  | read (.eval (.numeric _)) => none
  | read (.eval failure) => some failure.message
  | read (.unknownScenario name) => some (ReadFailure.unknownScenario name).message
  | read _ => none
  | unknownNode id => some s!"Unknown node: {id}"
  | write _ | markup _ | nullInPath => none

end CommandError

/-- How a command ends. -/
inductive Ending where
  | done
  /-- an error was reported -/
  | reported
  /-- the arguments make no request -/
  | misused
  /-- an error escaped -/
  | escaped (error : CommandError)

/-- The exit code of an ending. -/
def Ending.exitCode : Ending → Nat
  | done => 0
  | reported | escaped _ => 1
  | misused => 2

/-- **What the program answers.** -/
structure Outcome where
  transcript : Transcript
  ending : Ending

/-- A command that is being carried out. What is written stays written if it fails. -/
abbrev Command (m : Type → Type) (α : Type) := ExceptT CommandError (StateT Transcript m) α

namespace Command

variable {m : Type → Type} [Monad m] {α ε : Type}

/-- Asks the host. -/
def ask (x : m α) : Command m α := ExceptT.lift (StateT.lift x)

/-- Goes on with a value that there may not be. -/
def demand (error : ε → CommandError) (r : Except ε α) : Command m α :=
  ExceptT.mk (pure (r.mapError error))

def write (f : Transcript → Transcript) : Command m Unit := ExceptT.lift (modify f)

/-- Writes lines of results. -/
def out (lines : List Line) : Command m Unit := write fun t => { t with out := t.out ++ lines }

/-- Writes lines beside the results. -/
def err (lines : List Line) : Command m Unit := write fun t => { t with err := t.err ++ lines }

/-- What is left of a text with markup. -/
def plain (text : String) : Command m (List Char) := demand .markup (Markup.plain text)

/-- Writes a text with markup beside the results. -/
def say (text : String) : Command m Unit := do err (Line.ofText (← plain text))

/-- The lines of a grid whose cells have markup. -/
def grid (rows : List (List String)) : Command m (List Line) :=
  return Line.ofGrid (← rows.mapM fun row => row.mapM plain)

/-- Carries out a session on a memo. -/
def session (memo : Memo) (x : Session α) : Command m (α × Memo) := do
  let reply := x memo
  write fun t => { t with log := t.log ++ reply.log }
  demand .read (reply.result.map fun a => (a, reply.memo))

end Command

/-- A model with what is known about it. -/
structure OpenMap where
  model : Model
  memo : Memo

namespace Host

variable {m : Type → Type} [Monad m]

/-- The settings that count. -/
def settings (host : Host m) : Command m Configuration := do
  Command.demand .config (← Command.ask host.configuration)

/-- **Opens a map:** the one that is named, else that of the settings. -/
def openMap (host : Host m) (path scenario : Option String) (settings : Configuration) :
    Command m OpenMap := do
  match path.map Path.normalize <|> settings.map with
  | none => throw (.config .noMap)
  | some path =>
    Command.say s!"[cyan]Loading map from:[/cyan] {path}"
    let document ← Command.demand .load (← Command.ask (host.loadDocument path))
    let definition ←
      Command.demand .draft (Definition.ofDocument Libraries.standard document)
    let model ← Command.demand .unacceptable definition.accept
    let name := (scenario <|> settings.scenario).getD defaultScenario
    let ((), memo) ← Command.session {} (model.setScenario name)
    if name != defaultScenario then
      Command.say s!"[cyan]Scenario:[/cyan] [bold]{Markup.escape name}[/bold]"
    return { model, memo }

/-- The row of a property. -/
def propertyRow (p : Property) : List String :=
  [Markup.escape p.name, Vocabulary.word p.combiner,
    Markup.escape (commaSeparated p.dependencies), Markup.escape (commaSeparated p.implies)]

/-- Checks a map and writes an overview of it. -/
def check (host : Host m) (path : Option String) : Command m Unit := do
  let { model, memo } ← host.openMap path none (← host.settings)
  let d := model.definition
  let rows ← Command.grid <|
    ["Property", "Combine", "Depends on", "Implies"] ::
      (model.propertyOrder.filterMap d.properties.get?).map propertyRow
  let (edges, _) ← Command.session memo model.allEdges
  let name := if d.description = "" then (path.map Path.normalize).getD "" else d.description
  let title ← Command.plain s!"[bold]Map: {Markup.escape name}[/bold]"
  Command.err (.text (String.ofList (titleLine title)) :: rows)
  Command.say s!"{d.nodes.size} nodes, {edges.length} edges, {d.scenarios.size} scenarios"
  Command.say "✓ Map is valid"

/-- Demands that there is a node. -/
def demandNode (model : Model) (id : String) : Command m Unit :=
  match model.node? id with
  | some _ => pure ()
  | none => throw (.unknownNode id)

/-- Writes the values of a node, or the summary. -/
def values (host : Host m) (settings : Configuration) (path node scenario : Option String)
    (hidden : Option Bool) : Command m Unit := do
  let hidden := hidden.getD settings.includeHidden
  let { model, memo } ← host.openMap path scenario settings
  let text ←
    match node with
    | none => model.summaryText hidden |> Command.session memo
    | some id => do
      demandNode model id
      model.nodeText id hidden |> Command.session memo
  Command.out (Line.ofText (Markup.printed text.1))

/-- What rows call the node with an id. -/
def nodeLabel (model : Model) (id : String) : String :=
  match model.node? id with
  | some n => Model.displayName id n
  | none => id

/-- The row of an edge. -/
def edgeRow (model : Model) (e : ExpandedEdge) : List String :=
  let constants := commaSeparated (e.constants.entries.map fun (k, x) => s!"{k}={numberText x}")
  [Markup.escape (nodeLabel model e.ref), Markup.escape e.type, Markup.escape constants,
    if e.implied then "[yellow]yes[/yellow]" else ""]

/-- The row of a drawn edge. -/
def drawnRow (model : Model) (e : DrawnEdge) : List String :=
  let color := Color.unpack e.color
  [Markup.escape (nodeLabel model e.parent), numberText e.width,
    if color.alpha == 0.0 then color.functional
    else s!"[{color.hex}]■[/{color.hex}] {color.functional}",
    numberText e.opacity, numberText e.bump,
    Markup.escape (commaSeparated (e.edges.map ExpandedEdge.type).eraseDups)]

/-- Writes the edges of a node, and how they are drawn. -/
def edges (host : Host m) (path : Option String) (node : String) (scenario : Option String) :
    Command m Unit := do
  let { model, memo } ← host.openMap path scenario (← host.settings)
  demandNode model node
  let (expanded, memo) ← Command.session memo (model.edges node)
  let (drawn, _) ← Command.session memo (model.drawing node)
  let edges ← Command.grid <|
    ["Ref", "Type", "Constants", "Implied"] :: expanded.map (edgeRow model)
  let drawings ← Command.grid <|
    ["Parent", "Width", "Color", "Opacity", "Bump", "Types"] :: drawn.map (drawnRow model)
  Command.out (.text "Edges" :: edges ++ .text "Render edges" :: drawings)

/-- Writes all values to a file. -/
def exportValues (host : Host m) (settings : Configuration) (path : Option String) (output : String)
    (scenario : Option String) (hidden : Option Bool) : Command m Unit := do
  let hidden := hidden.getD settings.includeHidden
  let output := Path.normalize output
  let { model, memo } ← host.openMap path scenario settings
  Command.say s!"[cyan]Exporting values to:[/cyan] {output}"
  let (report, _) ← Command.session memo (model.report hidden)
  Command.demand .write (← Command.ask (host.write output report.text))
  Command.say "✓ Export complete"

/-- Reports an error if it is one that is reported. -/
def fail (error : CommandError) : Command m Ending :=
  match error.report? with
  | some message => do
    Command.say s!"[red]✗ {Markup.escape message}[/red]"
    return .reported
  | none => return .escaped error

/-- Carries out a command. Its errors are reported if they can be. -/
def conclude (command : Command m Unit) : m Outcome := do
  let ended : Command m Ending := tryCatch (do command; return .done) fail
  let (result, transcript) ← ended.run.run {}
  match result with
  | .ok ending => return { transcript, ending }
  | .error error => return { transcript, ending := .escaped error }

/-- Carries out a command that needs the settings first. Errors in the settings escape. -/
def withSettings (host : Host m) (command : Configuration → Command m Unit) : m Outcome := do
  match ← host.configuration with
  | .ok settings => conclude (command settings)
  | .error error => return { transcript := {}, ending := .escaped (.config error) }

/-- **The outcome of a list of arguments.** -/
def run (host : Host m) (args : List String) : m Outcome :=
  match Request.parse args with
  | .error .form => return { transcript := {}, ending := .misused }
  | .error .nullInPath => return { transcript := {}, ending := .escaped .nullInPath }
  | .ok (.check path) => conclude (host.check path)
  | .ok (.values path node scenario hidden) =>
    host.withSettings fun settings => host.values settings path node scenario hidden
  | .ok (.edges path node scenario) => conclude (host.edges path node scenario)
  | .ok (.exportTo path output scenario hidden) =>
    host.withSettings fun settings => host.exportValues settings path output scenario hidden

end Host

end ValuedGraph
