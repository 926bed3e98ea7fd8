import Superstep.Core.Message
import Superstep.Wire.Uuid

/-!
# Executors and their handler context

An `Executor` is a node of a workflow: an id, a dispatch entry (`Capabilities`) and two
handlers, one for messages and one for the responses to requests the executor made.

A handler runs in the `Handler` monad: it reads and changes a `Context`, and may fail with an
`ExecutorError`. The context records, in order, the messages the handler sends (its outbox)
and the outputs and requests it produces (its effects); it also holds the executor's own
key/value store, which outlives the handler. A failure does not undo anything the handler did
before it: the runner still publishes the effects made so far and keeps the store, and only
drops the outbox. A panic is caught the same way: it ends the handler with the error its payload
becomes (`Panic.toError`).

New request ids come from a counter in the context, so a run is a pure function of its
inputs; `Uuid.generated` turns the counter into a UUID.
-/

namespace Superstep

/-- A message sent by a handler, routed after the handler returns; `target` restricts delivery
to one edge. -/
structure Outgoing where
  message : Message
  target : Option String := none
  deriving Inhabited

/-- An observable effect of a handler, in the order it was produced. -/
inductive Effect where
  | output (v : Value)
  | request (r : Request)
  deriving Inhabited

/-- What a handler invocation sees and changes. -/
structure Context where
  /-- The id of the executor being invoked. -/
  executorId : String
  /-- The number of the superstep, counted from one. -/
  superstep : Nat
  /-- The id of the request being answered, inside a response handler. -/
  requestId : Option String := none
  /-- The executor's key/value store, keys sorted and unique. -/
  store : List (String × Value) := []
  /-- The messages sent so far, in order. -/
  outbox : List Outgoing := []
  /-- The outputs and requests produced so far, in order. -/
  effects : List Effect := []
  /-- The next unused id number. -/
  ids : Nat := 0
  deriving Inhabited

/-- A handler: a computation over the context that may fail. -/
abbrev Handler := ExceptT ExecutorError (StateM Context)

namespace Handler

/-- Fails with an executor error. -/
def fail (e : ExecutorError) : Handler Unit := throw e

/-- The invocation's context. -/
def context : Handler Context := get

/-- Sends a message to every edge target that accepts its kind. -/
def send (m : Message) : Handler Unit :=
  modify fun c => { c with outbox := c.outbox ++ [⟨m, none⟩] }

/-- Sends a message to one edge target. -/
def sendTo (target : String) (m : Message) : Handler Unit :=
  modify fun c => { c with outbox := c.outbox ++ [⟨m, some target⟩] }

/-- Produces a workflow output. -/
def yieldOutput (v : Value) : Handler Unit :=
  modify fun c => { c with effects := c.effects ++ [.output v] }

/-- Asks the caller for input; the answer must have kind `responseKind`. Returns the new
request's id. -/
def requestInfo (request : Message) (responseKind : String) : Handler String :=
  modifyGet fun c =>
    let id := (Uuid.generated c.ids).toText
    let r : Request := ⟨id, c.executorId, request, responseKind⟩
    (id, { c with effects := c.effects ++ [.request r], ids := c.ids + 1 })

/-- The stored value under a key. -/
def getState (key : String) : Handler (Option Value) := do
  return Value.lookup (← get).store key

/-- Stores a value under a key. -/
def setState (key : String) (v : Value) : Handler Unit :=
  modify fun c => { c with store := Value.insertField key v c.store }

/-- Removes the value under a key. -/
def removeState (key : String) : Handler Unit :=
  modify fun c => { c with store := c.store.filter (·.1 != key) }

end Handler

/-- What a handler unwinds with when it panics: a string slice, an owned string, or a value of
any other type. -/
inductive Panic where
  | str (text : String)
  | string (text : String)
  | other

/-- The text a caught panic reports: the payload itself when it is a string, and "unknown panic"
otherwise. -/
def Panic.text : Panic → String
  | .str text | .string text => text
  | .other => "unknown panic"

/-- The executor error a caught panic becomes. -/
def Panic.toError (p : Panic) : ExecutorError := .panicked p.text

/-- Panics: the handler stops where it is, keeping what it did so far, and its call fails with
the error the panic becomes when caught. -/
def Handler.unwind (p : Panic) : Handler Unit := throw p.toError

/-- A node of a workflow. -/
structure Executor where
  /-- The id, unique within a workflow. -/
  id : String
  /-- The message kinds and response pairs it handles. -/
  caps : Capabilities
  /-- The handler of a message whose kind it accepts. -/
  handle : Message → Handler Unit
  /-- The handler of the response to one of its requests: request, then response. -/
  handleResponse : Message → Message → Handler Unit
  /-- The instance number: two executors are the same instance when their ids and instance
  numbers agree. -/
  instanceKey : Nat := 0
  /-- How many milliseconds a call of `handle` waits before it finishes. Only the time at which
  a run's events happen depends on it, never what they are. -/
  pause : Nat := 0

namespace Executor

/-- The response handler of an executor that has none. -/
def noResponseHandler (id : String) (request response : Message) : Handler Unit :=
  Handler.fail (.noResponseHandler id request.kind response.kind)

/-- Whether two executors are one instance. -/
def sameInstance (a b : Executor) : Bool := a.id == b.id && a.instanceKey == b.instanceKey

end Executor

end Superstep
