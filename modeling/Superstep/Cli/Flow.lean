import Superstep.Cli.Parse
import Superstep.Cli.Console
import Superstep.Engine.Loader
import Superstep.Engine.Background
import Superstep.Json.Print
import Superstep.Text.Space

/-!
# The `flow` commands

The commands of the `flow` program: `run` loads a workflow file and runs it from a first
message, asking on standard input for the answer to each request (in the background with
`--background`, polling for events); `validate` loads a file and describes the workflow;
`executors` lists the executor types; `init` writes an example workflow file. Their output is
the event stream as one line per event, and a summary.

A command that fails writes `Error: ` and the failure to standard error, then the errors behind
it under `Caused by:` (numbered when there are several), and ends with status 1.

A run in the background is polled every `--poll-interval-ms` milliseconds. The run goes on
while the poller waits: before each poll it takes every step due by then on its clock, so
answers given mid-run join the superstep in progress, and answers after it converged restart it.
-/

namespace Superstep

namespace Cli

/-- Why a command failed: what it says, then the errors behind it, outermost first. -/
structure Trouble where
  message : String
  causes : List String := []
  deriving Inhabited

namespace Trouble

/-- A failure of the engine, with the error it wraps. -/
def ofFlow (e : FlowError) : Trouble := ⟨e.message, e.causes⟩

/-- A failure put in context: the context first, the failure behind it. -/
def within (context : String) (t : Trouble) : Trouble := ⟨context, t.message :: t.causes⟩

/-- Right-aligns a number in five columns. -/
def number5 (n : Nat) : String :=
  let s := toString n
  blanks (5 - s.length) ++ s

/-- One cause under `Caused by:`, numbered when there are several; its further lines are
indented to match. -/
def cause (number : Option Nat) (text : String) : String :=
  let lines := text.splitOn "\n"
  let first := match number with
    | some n => number5 n ++ ": "
    | none => "    "
  let further := if number.isSome then blanks 7 else blanks 4
  first ++ ("\n" ++ further).intercalate lines

/-- The report of a failure, as written to standard error. -/
def report (t : Trouble) : String :=
  let numbered := t.causes.length > 1
  "Error: " ++ t.message ++
    (if t.causes.isEmpty then ""
    else "\n\nCaused by:" ++ String.join (t.causes.zipIdx.map fun (c, i) =>
      "\n" ++ cause (if numbered then some i else none) c))

end Trouble

/-- A step of a command: a console program that may fail. -/
abbrev Action := ExceptT Trouble Console

/-- Writes a line to standard output. -/
def say (line : String) : Action Unit := ExceptT.lift (Console.print line)

/-- Stops with the failure of the engine, if there is one. -/
def attempt {α : Type} (r : Except FlowError α) : Action α :=
  match r with
  | .ok a => pure a
  | .error e => throw (Trouble.ofFlow e)

/-! ## Events -/

/-- The line an event is shown as; the end of a superstep is not shown. -/
def eventLine : Event → Option String
  | .started id _ => some ("▶️  Run " ++ id.toText ++ " started")
  | .status s _ => some ("🔄 Status: " ++ s.name)
  | .superstepStarted n => some ("  ⏱️  Superstep " ++ toString n)
  | .executorInvoked id _ => some ("    ⚡ Invoking " ++ id)
  | .executorCompleted id _ => some ("    ✅ " ++ id ++ " completed")
  | .superstepCompleted _ => none
  | .output id v => some ("    📤 [" ++ id ++ "] " ++ v.toJson.render)
  | .requestInfo rid src _ _ => some ("    ✋ " ++ src ++ " requested input (" ++ rid ++ ")")
  | .failed d _ =>
    match d.executorId with
    | some id => some ("💥 Executor " ++ id ++ " failed: " ++ d.message)
    | none => some ("💥 Run failed: " ++ d.message)

/-- Shows an event. -/
def showEvent (e : Event) : Action Unit :=
  match eventLine e with
  | some line => say line
  | none => pure ()

/-- A message from text typed by a user: the JSON value it holds, or the text itself when it is
not JSON. -/
def typedMessage (kind text : String) : Message :=
  match Json.parse text with
  | .ok j => ⟨kind, Value.ofJson j⟩
  | .error _ => ⟨kind, .string text⟩

/-- Whether an answer approves: `y` or `yes` in any case. -/
def approves (answer : String) : Bool :=
  let lower := answer.toLower
  lower == "y" || lower == "yes"

/-- The response an answer gives to a request for a response of kind `kind`: for an approval,
an approval on `y`/`yes` and otherwise a denial giving the answer as reason; for any other kind,
a message of that kind. -/
def typedResponse (kind answer : String) : Message :=
  if kind != Nodes.approvalResponseKind then typedMessage kind answer
  else if approves answer then (Nodes.Approval.mk true none).toMessage
  else (Nodes.Approval.mk false (some ("answered '" ++ answer ++ "'"))).toMessage

/-- Asks on standard input for the response to a request event; other events need none. The
line read, without its surrounding blanks, is the answer. -/
def answerRequest (e : Event) : Action (Option (String × Message)) := do
  match e with
  | .requestInfo rid _ data kind =>
    if kind == Nodes.approvalResponseKind then say ("❓ " ++ data.body.toJson.render ++ " [y/n]")
    else say ("❓ Response of kind '" ++ kind ++ "' for " ++ data.body.toJson.render ++ ":")
    match ← ExceptT.lift Console.getLine with
    | none => throw ⟨"stdin closed while request " ++ rid ++ " was pending", []⟩
    | some line => pure (some (rid, typedResponse kind (Text.trim line)))
  | _ => pure none

/-- Shows events in order, asking for the answer to each request as it is shown. -/
def showAndAnswer : List Event → Action (List (String × Message))
  | [] => pure []
  | e :: rest => do
    showEvent e
    let answer ← answerRequest e
    let more ← showAndAnswer rest
    pure (answer.toList ++ more)

/-- The closing lines of a run: the state, and the number of requests left unanswered. -/
def summary (inst : Instance) : Action Unit := do
  say ""
  say ("📊 Final state: " ++ inst.runState.name)
  if !inst.pending.isEmpty then say ("   Unanswered requests: " ++ toString inst.pending.length)

/-! ## Loading -/

/-- The standard executor types. -/
def registry : Registry := Registry.standard

/-- Reads and builds a workflow file. -/
def loadFile (file : String) : Action Instance := do
  match ← ExceptT.lift (Console.load file) with
  | .error why => throw (Trouble.ofFlow (.io why))
  | .ok text => attempt (Definition.load text registry)

/-! ## `run` -/

/-- One round of a synchronous run: the run, then the answers to the requests it reported; and
the request of the next round, when the run left requests and answers were given. -/
def runRound (inst : Instance) (req : RunRequest) : Action (Instance × Option RunRequest) := do
  let (inst, result) ← attempt (inst.run req)
  let answers ← showAndAnswer result.events
  if result.finalState != .idleWithPendingRequests || answers.isEmpty then pure (inst, none)
  else pure (inst, some { responses := some answers })

/-- Runs synchronously: after a run that left requests, the answers given start the next run,
until a run leaves none or no answer was given. `fuel` bounds the number of runs. -/
def runRounds (inst : Instance) (req : RunRequest) : Nat → Action Instance
  | 0 => pure inst
  | fuel + 1 => do
    let (inst, next) ← runRound inst req
    match next with
    | none => pure inst
    | some req => runRounds inst req fuel

/-- The time of the next poll after `now`: one interval later, or, when nothing can happen
before, the first poll at or after the run's next step. -/
def nextPoll (now interval : Nat) (h : Background) : Nat :=
  match h.task.bind Task.dueAt with
  | some due =>
    if interval = 0 then max now due
    else if due ≤ now + interval then now + interval
    else now + interval * ((due - now + interval - 1) / interval)
  | none => now + interval

/-- Polls a run in the background: each time the events so far are shown and requests
answered; answers are given to the handle at once. Stops once the handle was idle before a
poll that found nothing to answer. Before each poll the task has taken every step due and, if
its run has ended, returned. `fuel` bounds the number of polls. -/
def pollRounds (interval : Nat) (inst : Instance) (h : Background) (now : Nat) :
    Nat → Action Instance
  | 0 => pure inst
  | fuel + 1 => do
    let (inst, h) := Background.advanceTo inst h now
    let h := h.complete
    let idle := h.isIdle
    let (events, h) := h.poll
    let answers ← showAndAnswer events
    if !answers.isEmpty then
      let (inst, h) ← attempt (Background.respond inst h answers now)
      pollRounds interval inst h now fuel
    else if idle then pure inst
    else pollRounds interval inst h (nextPoll now interval h) fuel

/-- The `run` command; `fuel` bounds the runs of the synchronous loop and the polls of a
background run. -/
def runCommand (fuel : Nat) (file input kind : String) (background : Bool) (interval : Nat) :
    Action Unit := do
  say ("🚀 Loading workflow from: " ++ file)
  let inst ← (loadFile file).adapt (Trouble.within ("failed to load " ++ file))
  say ("📋 Workflow: " ++ inst.graph.name)
  say ("   Executors: " ++ toString inst.graph.nodes.length)
  say ("   Edges: " ++ toString inst.graph.edgeCount)
  say ""
  let message := typedMessage kind input
  let inst ← if background then do
      let (inst, h) ← attempt (Background.start inst { message := some message } 0)
      pollRounds interval inst h 0 fuel
    else runRounds inst { message := some message } fuel
  summary inst

/-! ## `validate`, `executors`, `init` -/

/-- The `validate` command. -/
def validateCommand (file : String) : Action Unit := do
  say ("🔍 Validating workflow: " ++ file)
  let inst ← loadFile file
  let g := inst.graph
  say "✅ Workflow is valid:"
  say ("   Name: " ++ g.name)
  say ("   Start: " ++ g.start)
  say ("   Executors: " ++ toString g.nodes.length)
  say ("   Edges: " ++ toString g.edgeCount)
  say ("   Max supersteps: " ++ toString g.maxSupersteps)

/-- The `executors` command. -/
def executorsCommand : Action Unit := do
  say "📦 Available Executor Types:"
  say ""
  for t in registry.types do
    match registry.metadata? t with
    | some m =>
      say ("  • " ++ t ++ " (" ++ m.category ++ ")")
      say ("    " ++ m.description)
      say ("    accepts: " ++ ", ".intercalate m.accepts)
      if !m.emits.isEmpty then say ("    emits: " ++ ", ".intercalate m.emits)
    | none => say ("  • " ++ t)

/-- The example workflow: validate text, ask for approval, then upper-case and reverse it. -/
def sampleWorkflow : Definition :=
  let d := { Definition.new "Example approval workflow" "validate" with
    description := some "Validates text, asks for approval, then upper-cases and reverses it" }
  let (d, validate) := d.addExecutor { id := "validate", typeName := "text.validate" }
  let (d, approve) := d.addExecutor
    ({ id := "approve", typeName := "human.approval" : ExecutorSpec }.withConfig "prompt"
      (.string "Publish this text?"))
  let (d, upper) := d.addExecutor { id := "upper", typeName := "text.upper_case" }
  let (d, reverse) := d.addExecutor { id := "reverse", typeName := "text.reverse" }
  ((d.connect validate approve).connect approve upper).connect upper reverse

/-- The `init` command. -/
def initCommand (output : String) : Action Unit := do
  match ← ExceptT.lift (Console.store output (Json.pretty 0 sampleWorkflow.toDocument)) with
  | .error why => throw ⟨why, []⟩
  | .ok () => pure ()
  say ("✨ Created example workflow: " ++ output)
  say ""
  say "Run it with:"
  say ("  flow run --file " ++ output ++ " --input 'hello world'")

end Cli

end Superstep
