import Superstep.Cli.Program

/-!
# The `flow` executable

Runs `Superstep.Cli.execute` against the real system: lines go to standard output and standard
error, lines are read from standard input, files are read and written in the working directory,
and the result is the exit status. The failures of the system are reported in its own wording,
as `No such file or directory (os error 2)`.
-/

namespace Superstep

namespace Cli

/-- The system's wording of a failed file operation. -/
def describeFailure : IO.Error → String
  | .noFileOrDirectory _ code _ => "No such file or directory (os error " ++ toString code ++ ")"
  | .permissionDenied _ code _ => "Permission denied (os error " ++ toString code ++ ")"
  | .inappropriateType _ 21 _ => "Is a directory (os error 21)"
  | .alreadyExists _ code _ => "File exists (os error " ++ toString code ++ ")"
  | e => toString e

/-- A line read from standard input without its line ending; `none` once the input is over. -/
def readInputLine : IO (Option String) := do
  let line ← (← IO.getStdin).getLine
  if line.isEmpty then pure none
  else
    let line := if line.endsWith "\n" then (line.dropEnd 1).toString else line
    let line := if line.endsWith "\r" then (line.dropEnd 1).toString else line
    pure (some line)

/-- Carries out a console program's requests on the real system. -/
partial def perform {α : Type} : Console α → IO α
  | .done a => pure a
  | .say .out line next => do
    IO.println line
    perform next
  | .say .err line next => do
    IO.eprintln line
    perform next
  | .readLine k => do
    perform (k (← readInputLine))
  | .readFile path k => do
    match ← (IO.FS.readFile path).toBaseIO with
    | .ok text => perform (k (.ok text))
    | .error e => perform (k (.error (describeFailure e)))
  | .writeFile path text k => do
    match ← (IO.FS.writeFile path text).toBaseIO with
    | .ok () => perform (k (.ok ()))
    | .error e => perform (k (.error (describeFailure e)))

end Cli

end Superstep

/-- The `flow` program. -/
def main (args : List String) : IO UInt32 := do
  let status ← Superstep.Cli.perform (Superstep.Cli.execute args)
  pure status.toUInt32
