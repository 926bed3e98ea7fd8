import Superstep.Engine.Graph
import Superstep.Engine.Machine
import Superstep.Core.Event

/-!
# Running a workflow

An `Instance` is a runnable workflow: its graph, the key/value store of each executor (kept
across runs until `reset`), its run-state machine, and the counter from which run and request
ids are made.

A run goes in supersteps. Superstep `n` delivers every delivery of its list, one at a time and
in order: the runner reports the invocation, calls the handler, publishes the handler's outputs
and requests in the order they were made (a request is registered as pending before it is
reported), and, when the handler succeeded, routes the messages it sent to the next superstep's
list. A handler that fails does not stop the others; the first failure of the superstep is the
one reported, once the superstep is over, and the run ends `FAILED`. A run that still has work
after `maxSupersteps` supersteps fails too. Otherwise the run ends when a superstep leaves
nothing to deliver.

A run is a `Task` that moves in steps, starting a superstep and ending it, each due at a time on
a clock in milliseconds. Handlers take no time but their pause, so a superstep ends when its
last handler finishes; responses absorbed before then join the next superstep. A synchronous
run takes all its steps at once (`execute`); a run in the background takes them as its clock
allows (`Background`).
-/

namespace Superstep

/-- A runnable workflow instance. -/
structure Instance where
  graph : Graph
  /-- The key/value store of each executor. -/
  stores : List (String × List (String × Value))
  machine : Machine := {}
  /-- The next unused id number. -/
  ids : Nat := 0

/-- What a run produced: its events in order and its terminal state. -/
structure RunResult where
  events : List Event
  finalState : RunState

/-- The input of a run: a first message or responses to pending requests, never both. An empty
list of responses counts as none. -/
structure RunRequest where
  message : Option Message := none
  responses : Option (List (String × Message)) := none

/-- An event and the time it happened, in milliseconds on the clock of its run. -/
structure Stamped where
  time : Nat
  event : Event

namespace Instance

/-- A fresh instance of a graph: empty stores, `IDLE`, nothing pending. -/
def new (g : Graph) : Instance := { graph := g, stores := g.nodes.map fun e => (e.id, []) }

/-- The store of an executor. -/
def storeOf (inst : Instance) (id : String) : List (String × Value) :=
  ((inst.stores.find? (·.1 == id)).map (·.2)).getD []

/-- Replaces the store of an executor. -/
def setStore (inst : Instance) (id : String) (store : List (String × Value)) : Instance :=
  { inst with stores := inst.stores.map fun (k, s) => if k == id then (k, store) else (k, s) }

/-- The state of the run-state machine. -/
def runState (inst : Instance) : RunState := inst.machine.state

/-- The requests waiting for a response. -/
def pending (inst : Instance) : List Request := inst.machine.pending

/-! ## One delivery -/

/-- What a handler invocation left behind: the messages it sent, its effects, whether it
succeeded, and how long it took. -/
structure Invocation where
  outbox : List Outgoing
  effects : List Effect
  result : Except ExecutorError Unit
  pause : Nat := 0

/-- Calls the handler a delivery is addressed to. The executor's store and the id counter keep
whatever the handler did to them, also when it failed. -/
def dispatch (inst : Instance) (superstep : Nat) (d : Delivery) : Instance × Invocation :=
  let target := d.target
  match inst.graph.executor? target with
  | none => (inst, ⟨[], [], .error (.executionFailed ("executor " ++ target ++ " not found")), 0⟩)
  | some e =>
    let ctx : Context :=
      { executorId := target, superstep, store := inst.storeOf target, ids := inst.ids }
    let (result, ctx, pause) : Except ExecutorError Unit × Context × Nat :=
      match d with
      | .message _ m =>
        if e.caps.canHandle m.kind then
          let (r, ctx) := (e.handle m).run.run ctx
          (r, ctx, e.pause)
        else (.error (.unsupportedMessage target m.kind), ctx, 0)
      | .response _ rid q r =>
        if e.caps.canHandleResponse q.kind r.kind then
          let (r, ctx) := (e.handleResponse q r).run.run { ctx with requestId := some rid }
          (r, ctx, 0)
        else (.error (.noResponseHandler target q.kind r.kind), ctx, 0)
    ({ inst.setStore target ctx.store with ids := ctx.ids }, ⟨ctx.outbox, ctx.effects, result, pause⟩)

/-- Publishes a handler's effects in order: outputs are reported; requests are registered as
pending, then reported. -/
def publish (source : String) : Instance → List Effect → Instance × List Event
  | inst, [] => (inst, [])
  | inst, .output v :: rest =>
    let (inst, es) := publish source inst rest
    (inst, .output source v :: es)
  | inst, .request r :: rest =>
    let inst := { inst with machine := inst.machine.register r }
    let (inst, es) := publish source inst rest
    (inst, .requestInfo r.requestId r.source r.request r.responseKind :: es)

/-- The deliveries of the messages a handler sent, in the order sent and, for each message, in
edge order. Messages without receivers are dropped. -/
def routeAll (g : Graph) (source : String) (outbox : List Outgoing) : List Delivery :=
  outbox.flatMap fun o =>
    (g.route source o.message.kind o.target).map fun t => .message t o.message

/-! ## One superstep -/

/-- The state of a superstep in progress: the instance, the events so far, the clock, the
deliveries of the next superstep, and the first failure. -/
structure Step where
  inst : Instance
  events : List Stamped
  clock : Nat
  next : List Delivery
  failure : Option Failure

/-- Delivers one delivery within superstep `n`. The invocation is reported when the handler
starts; its outputs, requests and completion when it finishes, after its pause. -/
def deliver (n : Nat) (s : Step) (d : Delivery) : Step :=
  let target := d.target
  let (inst, inv) := s.inst.dispatch n d
  let (inst, published) := publish target inst inv.effects
  let finish := s.clock + inv.pause
  let (next, failure) := match inv.result with
    | .ok () => (s.next ++ routeAll inst.graph target inv.outbox, s.failure)
    | .error e =>
      (s.next, s.failure <|> some (Failure.mk .executorFailure e.message (some target)))
  ⟨inst, s.events ++ [⟨s.clock, Event.executorInvoked target n⟩] ++
    (published ++ [Event.executorCompleted target n]).map (Stamped.mk finish), finish, next, failure⟩

/-- Runs the handlers of superstep `n` over its deliveries, from time `start`. -/
def superstep (inst : Instance) (n start : Nat) (current : List Delivery) : Step :=
  let s := current.foldl (deliver n) ⟨inst, [⟨start, .superstepStarted n⟩], start, [], none⟩
  { s with events := s.events ++ [⟨s.clock, .superstepCompleted n⟩] }

/-- Ends a run as failed at time `time`. -/
def failRun (inst : Instance) (time : Nat) (details : Failure) : Instance × List Stamped :=
  ({ inst with machine := inst.machine.fail },
    [⟨time, .failed details Timestamp.epoch⟩, ⟨time, .status .failed Timestamp.epoch⟩])

end Instance

/-! ## A run, step by step -/

/-- Where a run stands. -/
inductive Phase where
  /-- Between supersteps, with the deliveries of the next one. -/
  | ready (next : List Delivery)
  /-- The handlers of a superstep have run and it ends at `endsAt`: then its first failure ends
  the run, or the responses absorbed meanwhile join the deliveries of the next superstep. -/
  | closing (next : List Delivery) (failure : Option Failure) (endsAt : Nat)
  /-- The run is over. -/
  | done (state : RunState)

/-- A run in progress: the supersteps begun, where it stands, and its clock. -/
structure Task where
  supersteps : Nat := 0
  phase : Phase
  clock : Nat

namespace Task

/-- Starts a run at time `time` with its first deliveries; the run takes the next id. -/
def start (inst : Instance) (initial : List Delivery) (time : Nat) :
    Instance × Task × List Stamped :=
  let runId := Uuid.generated inst.ids
  ({ inst with ids := inst.ids + 1 }, { phase := .ready initial, clock := time },
    [⟨time, .started runId Timestamp.epoch⟩, ⟨time, .status .running Timestamp.epoch⟩])

/-- When the next step of the run is due; `none` once it is over. -/
def dueAt (t : Task) : Option Nat :=
  match t.phase with
  | .ready _ => some t.clock
  | .closing _ _ endsAt => some endsAt
  | .done _ => none

/-- Whether the run is over. -/
def isDone (t : Task) : Bool := t.dueAt.isNone

/-- The terminal state of a finished run, or the instance's state. -/
def finalState (t : Task) (inst : Instance) : RunState :=
  match t.phase with
  | .done s => s
  | _ => inst.runState

/-- One step: start the next superstep (or fail the run once `maxSupersteps` were run), or end
the superstep in progress. -/
def step (inst : Instance) (t : Task) : Instance × Task × List Stamped :=
  match t.phase with
  | .done _ => (inst, t, [])
  | .ready next =>
    let limit := inst.graph.maxSupersteps
    if limit ≤ t.supersteps then
      let (inst, events) := inst.failRun t.clock ⟨.maxSuperstepsExceeded,
        "Workflow did not converge within " ++ toString limit ++ " supersteps", none⟩
      (inst, { t with phase := .done .failed }, events)
    else
      let n := t.supersteps + 1
      let s := inst.superstep n t.clock next
      (s.inst, { t with supersteps := n, phase := .closing s.next s.failure s.clock }, s.events)
  | .closing next failure endsAt =>
    let t := { t with clock := endsAt }
    match failure with
    | some details =>
      let (inst, events) := inst.failRun endsAt details
      (inst, { t with phase := .done .failed }, events)
    | none =>
      let (machine, outcome) := inst.machine.converge next
      let inst := { inst with machine }
      match outcome with
      | .error state => (inst, { t with phase := .done state }, [⟨endsAt, .status state Timestamp.epoch⟩])
      | .ok next => (inst, { t with phase := .ready next }, [])

/-- Enough steps for any run of an instance: two per superstep, and one to fail. -/
def budget (inst : Instance) : Nat := 2 * inst.graph.maxSupersteps + 4

/-- Takes every step due at time `time` or before, at most `fuel` of them. -/
def advanceTo (time : Nat) (inst : Instance) (t : Task) : Nat → Instance × Task × List Stamped
  | 0 => (inst, t, [])
  | fuel + 1 =>
    match t.dueAt with
    | some due =>
      if due ≤ time then
        let (inst, t, es) := step inst t
        let (inst, t, rest) := advanceTo time inst t fuel
        (inst, t, es ++ rest)
      else (inst, t, [])
    | none => (inst, t, [])

/-- Drops a run. A run that has not ended releases the instance, which fails the run in
flight. -/
def drop (inst : Instance) (t : Task) : Instance :=
  if t.isDone then inst else { inst with machine := inst.machine.abandon }

/-- Runs to the end, at most `fuel` steps. -/
def finish (inst : Instance) (t : Task) : Nat → Instance × Task × List Stamped
  | 0 => (inst, t, [])
  | fuel + 1 =>
    if t.isDone then (inst, t, [])
    else
      let (inst, t, es) := step inst t
      let (inst, t, rest) := finish inst t fuel
      (inst, t, es ++ rest)

end Task

namespace Instance

/-- Runs a workflow from its initial deliveries until it converges or fails. -/
def execute (inst : Instance) (initial : List Delivery) : Instance × RunResult :=
  let (inst, t, opening) := Task.start inst initial 0
  let (inst, t, rest) := t.finish inst (Task.budget inst)
  (inst, ⟨(opening ++ rest).map (·.event), t.finalState inst⟩)

/-! ## Entry points -/

/-- Checks a run's input and starts it on the machine, returning its first deliveries. A first
message must be accepted by the start executor. -/
def begin (inst : Instance) (req : RunRequest) : Except FlowError (Instance × List Delivery) :=
  let responses := req.responses.filter (!·.isEmpty)
  match req.message, responses with
  | some _, some _ => .error .conflictingInput
  | none, none => .error .missingInput
  | some m, none => do
    inst.machine.ensureNotRunning
    let start := inst.graph.start
    let accepted := match inst.graph.executor? start with
      | some e => e.caps.canHandle m.kind
      | none => false
    if !accepted then throw (.workflow (.unsupportedMessage start m.kind))
    let machine ← inst.machine.beginFresh
    pure ({ inst with machine }, [.message start m])
  | none, some rs => do
    let (machine, ds) ← inst.machine.beginWithResponses rs
    pure ({ inst with machine }, ds)

/-- Runs to convergence and returns every event produced. -/
def run (inst : Instance) (req : RunRequest) : Except FlowError (Instance × RunResult) := do
  let (inst, ds) ← inst.begin req
  pure (inst.execute ds)

/-- Clears the store of every executor, unless a run is in flight. -/
def reset (inst : Instance) : Except FlowError Instance :=
  if inst.runState = .running then .error .concurrentRunRejected
  else .ok { inst with stores := inst.stores.map fun (k, _) => (k, []) }

end Instance

/-- The first failure among events. -/
def RunResult.failure? (r : RunResult) : Option Failure := r.events.findSome? Event.failure?

end Superstep
