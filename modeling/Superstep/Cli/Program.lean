import Superstep.Cli.Demo

/-!
# The `flow` program

The command line of the workflow engine: its grammar (`flowProgram`) and `execute`, which reads
a command line and runs the command it names, returning the exit status: 0 on success, 1 when the
command failed, 2 when the command line was refused. Help goes to standard output, refusals
and failures to standard error.
-/

namespace Superstep

namespace Cli

/-- The parameters of `run`. -/
def runParams : List Param :=
  [{ id := "file", short := some 'f', long := some "file", takes := .option "FILE",
      help := "Path to workflow JSON file", required := true, check := .path },
    { id := "input", short := some 'i', long := some "input", takes := .option "INPUT",
      help := "Initial message body, as JSON or plain text", required := true },
    { id := "kind", short := some 'k', long := some "kind", takes := .option "KIND",
      help := "Kind of the initial message", default := some "text" },
    { id := "background", short := some 'b', long := some "background", takes := .flag,
      help := "Run on a background task and poll for events" },
    { id := "poll_interval_ms", long := some "poll-interval-ms", takes := .option "POLL_INTERVAL_MS",
      help := "Delay between polls in background mode", default := some "50", check := .count },
    { id := "verbose", short := some 'v', long := some "verbose", takes := .flag,
      help := "Show verbose output" }]

/-- The demonstrations, with what each shows. -/
def demoNames : List (String × String) :=
  [("polling", "Poll a background ping-pong run until it converges"),
    ("respond", "Answer a request while another branch keeps running"),
    ("errors", "Observe a failure and reuse the workflow afterwards"),
    ("ping-pong", "Run ping-pong synchronously")]

/-- The parameters of `validate`. -/
def validateParams : List Param :=
  [{ id := "file", takes := .positional "FILE", help := "Path to workflow JSON file",
      required := true, check := .path }]

/-- The parameters of `init`. -/
def initParams : List Param :=
  [{ id := "output", short := some 'o', long := some "output", takes := .option "OUTPUT",
      help := "Output file path", default := some "workflow.json", check := .path }]

/-- The parameters of `demo`. -/
def demoParams : List Param :=
  [{ id := "name", takes := .positional "NAME", help := "", required := true,
      check := .oneOf demoNames },
    { id := "verbose", short := some 'v', long := some "verbose", takes := .flag,
      help := "Show verbose output" }]

/-- The commands of the `flow` program. -/
def flowCommands : List Command :=
  [Command.withHelp "run" "Execute a workflow file" runParams,
    Command.withHelp "validate" "Validate a workflow file" validateParams,
    Command.withHelp "executors" "List available executor types" [],
    Command.withHelp "init" "Create a new example workflow" initParams,
    Command.withHelp "demo" "Run a built-in demonstration" demoParams]

/-- The grammar of the `flow` program. -/
def flowProgram : Program := ⟨"flow", "Flow Engine CLI", flowCommands⟩

/-- The command a command line names, with the values of its parameters; `fuel` bounds the
rounds of its loops. -/
def commandFor (fuel : Nat) (name : String) (values : List (String × String)) : Action Unit :=
  let get (key : String) : String := (values.lookup key).getD ""
  if name == "run" then
    let interval := match readCount (get "poll_interval_ms") with
      | .ok n => n
      | .error _ => 50
    runCommand fuel (get "file") (get "input") (get "kind") (get "background" == "true") interval
  else if name == "validate" then validateCommand (get "file")
  else if name == "executors" then executorsCommand
  else if name == "init" then initCommand (get "output")
  else if name == "demo" then
    let which := get "name"
    if which == "polling" then pollingDemo fuel
    else if which == "respond" then respondDemo fuel
    else if which == "errors" then errorsDemo fuel
    else pingPongDemo
  else pure ()

/-- Reads a command line (the words after the program's name) and runs it, its loops bounded by
`fuel` rounds; the result is the exit status. -/
def executeWithin (fuel : Nat) (args : List String) : Console Nat := do
  match flowProgram.parse args with
  | .help text =>
    Console.print text
    pure 0
  | .refused text =>
    Console.printErr text
    pure 2
  | .command name values =>
    match ← (commandFor fuel name values).run with
    | .ok () => pure 0
    | .error t =>
      Console.printErr t.report
      pure 1

/-- The bound this executable puts on the rounds of its loops: the runs of `flow run`'s
synchronous loop and the polls of a background run. `flow` itself has no such bound; it loops
until a run leaves nothing to answer or the handle is idle. A synchronous loop given `n` lines of
input ends within `n + 1` rounds (`Cli.Round.ends_of_runRounds`), so up to this many lines the
bound changes nothing there. -/
def rounds : Nat := Nat.pow 2 20

/-- The `flow` program as this executable runs it. -/
def execute (args : List String) : Console Nat := executeWithin rounds args

end Cli

end Superstep
