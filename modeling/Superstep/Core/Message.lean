import Superstep.Value.Basic
import Superstep.Wire.Shape
import Superstep.Core.Error

/-!
# Messages, capabilities, requests and run states

A `Message` is a kind tag and a `Value` body; executors are chosen by the kind. A
`Capabilities` value is an executor's dispatch entry: the kinds it handles and the pairs of
request and response kinds whose responses it handles. Both are sets, kept as sorted lists
without repeats, so that two capabilities are equal exactly when they hold the same entries.

A `Request` is an outstanding need for external input; its answer must carry the response kind
it names. `RunState` is the lifecycle state of a workflow instance.
-/

namespace Superstep

/-- Reads a value from its tagged form. -/
def Value.decode (j : Json) : Except DecodeError Value := (Wire.Shape.check .value j).map Value.ofWire

/-- A payload travelling between executors. -/
structure Message where
  kind : String
  body : Value
  deriving Inhabited

namespace Message

/-- The stored form: the kind and the tagged body. -/
def toWire (m : Message) : Json := .object [("body", m.body.toWire), ("kind", .string m.kind)]

/-- The shape of a stored message. -/
def shape : Wire.Shape :=
  .record "struct Message" [("kind", .string, none), ("body", .value, none)]

/-- The message a normal form of `shape` stands for. -/
def ofWire (j : Json) : Message :=
  ⟨((j.get? "kind").bind Json.asStr?).getD "", Value.ofWire ((j.get? "body").getD .null)⟩

/-- The body read as data of `shape`, after checking that the message has kind `kind`. -/
def toPayload (m : Message) (kind : String) (shape : Wire.Shape) : Except ExecutorError Json :=
  if m.kind ≠ kind then .error (.invalidPayload m.kind ("expected kind '" ++ kind ++ "'"))
  else
    match shape.check m.body.toJson with
    | .ok j => .ok j
    | .error e => .error (.invalidPayload m.kind e.message)

end Message

/-- Inserts a string into a sorted list without repeats. -/
def insertSortedString (s : String) : List String → List String
  | [] => [s]
  | t :: ts => if s = t then t :: ts else if s < t then s :: t :: ts else t :: insertSortedString s ts

/-- The order of pairs of strings: by the first, then by the second. -/
def pairLt (a b : String × String) : Bool := a.1 < b.1 || (a.1 == b.1 && a.2 < b.2)

/-- Inserts a pair into a sorted list of pairs without repeats. -/
def insertSortedPair (p : String × String) : List (String × String) → List (String × String)
  | [] => [p]
  | q :: qs =>
    if p = q then q :: qs else if pairLt p q then p :: q :: qs else q :: insertSortedPair p qs

/-- What an executor handles: message kinds, and pairs of request and response kinds. -/
structure Capabilities where
  accepts : List String := []
  responses : List (String × String) := []
  deriving DecidableEq, Inhabited

namespace Capabilities

/-- No kinds and no responses. -/
def empty : Capabilities := {}

/-- Adds a handled message kind. -/
def acceptsKind (c : Capabilities) (kind : String) : Capabilities :=
  { c with accepts := insertSortedString kind c.accepts }

/-- Adds a handled pair of request and response kinds. -/
def respondsTo (c : Capabilities) (request response : String) : Capabilities :=
  { c with responses := insertSortedPair (request, response) c.responses }

/-- Whether messages of a kind are handled. -/
def canHandle (c : Capabilities) (kind : String) : Bool := c.accepts.contains kind

/-- Whether responses of a kind to requests of a kind are handled. -/
def canHandleResponse (c : Capabilities) (request response : String) : Bool :=
  c.responses.contains (request, response)

end Capabilities

/-- An outstanding need for external input, raised by an executor. -/
structure Request where
  requestId : String
  source : String
  request : Message
  responseKind : String
  deriving Inhabited

/-- The stored form of a request. -/
def Request.toWire (r : Request) : Json :=
  .object [("request", r.request.toWire), ("request_id", .string r.requestId),
    ("response_kind", .string r.responseKind), ("source_executor_id", .string r.source)]

/-- The lifecycle state of a workflow instance. -/
inductive RunState where
  | idle
  | running
  | idleWithPendingRequests
  | failed
  deriving DecidableEq, Inhabited

namespace RunState

/-- Every state, in declaration order. -/
def all : List RunState := [.idle, .running, .idleWithPendingRequests, .failed]

/-- The name of a state. -/
def name : RunState → String
  | .idle => "IDLE"
  | .running => "RUNNING"
  | .idleWithPendingRequests => "IDLE_WITH_PENDING_REQUESTS"
  | .failed => "FAILED"

/-- The names of all states, in declaration order. -/
def names : List String := all.map name

/-- The state with a given name. -/
def ofName? (s : String) : Option RunState := all.find? (·.name == s)

end RunState

end Superstep
