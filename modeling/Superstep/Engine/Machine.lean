import Superstep.Core.Message

/-!
# The run-state machine

Each workflow instance has one `Machine`: its run state, the table of requests waiting for a
response, and the responses that arrived while a run was in flight (which join the next
superstep of that run). Every operation below is a single step on the machine, so each check
and the change it guards happen together.

* A run may start only when none is in flight (`beginFresh`, `beginWithResponses`).
* A fresh run abandons the requests left over from earlier runs.
* A batch of responses is checked as a whole before anything changes (`resolve`): every id must
  name a pending request, no id may appear twice, and each response must have the kind its
  request asked for. Only then are the answered requests removed.
* Responses to a run in flight are absorbed; responses after a run converged restart it.
* At the end of a superstep (`converge`), absorbed responses join the deliveries of the next
  superstep; with nothing left to deliver, the run ends `IDLE`, or
  `IDLE_WITH_PENDING_REQUESTS` when requests still wait.
-/

namespace Superstep

/-- One unit of work of a superstep: a message for an executor, or the response to one of its
requests. -/
inductive Delivery where
  | message (target : String) (m : Message)
  | response (target : String) (requestId : String) (request response : Message)
  deriving Inhabited

/-- The executor a delivery is addressed to. -/
def Delivery.target : Delivery → String
  | .message t _ => t
  | .response t .. => t

/-- What a batch of responses did: joined the run in flight, or restarts a converged one with
these deliveries. -/
inductive RespondOutcome where
  | absorbed
  | restart (deliveries : List Delivery)

/-- The run state, pending requests and absorbed responses of a workflow instance. -/
structure Machine where
  state : RunState := .idle
  pending : List Request := []
  injected : List Delivery := []
  deriving Inhabited

namespace Machine

/-- Rejects a second run while one is in flight. -/
def ensureNotRunning (m : Machine) : Except FlowError Unit :=
  if m.state = .running then .error .concurrentRunRejected else .ok ()

/-- Starts a run from a new message, abandoning pending requests. -/
def beginFresh (m : Machine) : Except FlowError Machine := do
  m.ensureNotRunning
  pure { state := .running, pending := [], injected := [] }

/-- Checks a whole batch of responses against the pending requests. -/
def check (pending : List Request) : List String → List (String × Message) → Except FlowError Unit
  | _, [] => .ok ()
  | seen, (id, r) :: rest =>
    if seen.contains id then .error (.invalidRequestId id)
    else
      match pending.find? (·.requestId == id) with
      | none => .error (.invalidRequestId id)
      | some p =>
        if p.responseKind != r.kind then .error (.responseTypeMismatch id p.responseKind r.kind)
        else check pending (id :: seen) rest

/-- Removes the answered requests, turning each answer into a delivery to the requester. Each
answer removes the first request with its id. -/
def take (pending : List Request) : List (String × Message) → List Request × List Delivery
  | [] => (pending, [])
  | (id, r) :: rest =>
    match pending.find? (·.requestId == id) with
    | some p =>
      let (left, ds) := take (pending.eraseP (·.requestId == id)) rest
      (left, .response p.source p.requestId p.request r :: ds)
    | none => take pending rest

/-- Checks a batch of responses, then removes the requests they answer. -/
def resolve (m : Machine) (responses : List (String × Message)) :
    Except FlowError (Machine × List Delivery) := do
  check m.pending [] responses
  let (left, ds) := take m.pending responses
  pure ({ m with pending := left }, ds)

/-- Starts a run that resumes pending requests. -/
def beginWithResponses (m : Machine) (responses : List (String × Message)) :
    Except FlowError (Machine × List Delivery) := do
  m.ensureNotRunning
  let (m, ds) ← m.resolve responses
  pure ({ m with state := .running }, ds)

/-- Answers pending requests: absorbed into the run in flight, or restarting a converged one.
An empty batch changes nothing. -/
def respond (m : Machine) (responses : List (String × Message)) :
    Except FlowError (Machine × RespondOutcome) := do
  if responses.isEmpty then return (m, .absorbed)
  let (m, ds) ← m.resolve responses
  if m.state = .running then pure ({ m with injected := m.injected ++ ds }, .absorbed)
  else pure ({ m with state := .running }, .restart ds)

/-- Records a new request. -/
def register (m : Machine) (r : Request) : Machine := { m with pending := m.pending ++ [r] }

/-- The end of a superstep: the deliveries of the next one with the absorbed responses after
them, or the terminal state when there are none. -/
def converge (m : Machine) (next : List Delivery) : Machine × Except RunState (List Delivery) :=
  let next := next ++ m.injected
  let m := { m with injected := [] }
  if next.isEmpty then
    let s := if m.pending.isEmpty then RunState.idle else .idleWithPendingRequests
    ({ m with state := s }, .error s)
  else (m, .ok next)

/-- Ends a run as failed, dropping pending requests and absorbed responses. -/
def fail (m : Machine) : Machine := { m with state := .failed, pending := [], injected := [] }

/-- Releases a run that stopped without reaching a terminal state: a run in flight fails. -/
def abandon (m : Machine) : Machine := if m.state = .running then m.fail else m

end Machine

end Superstep
