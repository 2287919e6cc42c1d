import ValuedGraph.CommandLine.Run

/-!
# The program

Carries out the request of its arguments on the files of the machine. Everything that decides
anything is in the modules this one imports.
-/

namespace ValuedGraph

/-- The files of the machine. -/
def machine : Host IO where
  workingDirectory := return (← IO.currentDir).toString
  read path := do
    try return some (← IO.FS.readBinFile path)
    catch _ => return none
  write path text := do
    try
      IO.FS.writeFile path text
      return .ok ()
    catch _ => return .error (.noDirectory path)

/-- The message of an error that escapes. -/
def CommandError.message : CommandError → String
  | config error => error.message
  | load error => error.message
  | draft (.rejected error) => error.message
  | draft (.numeric fault) => fault.message
  | unacceptable error => error.message
  | read failure => failure.message
  | unknownNode id => id
  | write error => error.message
  | markup error => error.message
  | nullInPath => nullInPathMessage

/-- Prints an outcome and gives its exit code. -/
def report (o : Outcome) : IO UInt32 := do
  for line in o.transcript.err do IO.eprintln line.print
  for line in o.transcript.out do IO.println line.print
  for entry in o.transcript.log do IO.eprintln entry.text
  match o.ending with
  | .escaped error => IO.eprintln error.message
  | .misused => IO.eprintln "usage: check | values | edges | export [PATH] [OPTIONS]"
  | _ => pure ()
  return o.ending.exitCode.toUInt32

end ValuedGraph

/-- The program. -/
def main (args : List String) : IO UInt32 := do
  ValuedGraph.report (← ValuedGraph.machine.run args)
