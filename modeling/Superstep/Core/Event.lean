import Superstep.Core.Message

/-!
# Events

A run reports what it does as a stream of `Event`s, in scheduler order: it starts, changes
state, opens and closes supersteps, invokes executors, yields outputs, raises requests and
fails. Three kinds of event carry the time they were made; the engine's runs stamp them with
`Timestamp.epoch`, since nothing in a run depends on the clock.

The stored form of an event is an object whose `type` key names the event, next to its fields
(`Event.toWire`). `Event.decode` reads it back: the `type` key is found first, then the other
keys are checked against the fields of that event (in the buffered mode of `Wire.Shape`). An
array whose first item is the type and whose other items are the fields is read too.
-/

namespace Superstep

/-- Why a run failed. -/
structure Failure where
  kind : ErrorKind
  message : String
  executorId : Option String := none
  deriving Inhabited

namespace Failure

/-- The stored form. -/
def toWire (f : Failure) : Json :=
  .object [("executor_id", match f.executorId with
      | some id => .string id
      | none => .null),
    ("kind", .string f.kind.name), ("message", .string f.message)]

/-- The stored shape. -/
def shape : Wire.Shape :=
  .record "struct FailureDetails"
    [("kind", .unitEnum ErrorKind.names, none), ("message", .string, none),
      ("executor_id", .option .string, none)]

/-- The failure a normal form of `shape` stands for. -/
def ofWire (j : Json) : Failure :=
  ⟨(((j.get? "kind").bind Json.asStr?).bind ErrorKind.ofName?).getD .internal,
    ((j.get? "message").bind Json.asStr?).getD "", (j.get? "executor_id").bind Json.asStr?⟩

end Failure

/-- Something a run reports. -/
inductive Event where
  | started (runId : Uuid) (time : Timestamp)
  | status (state : RunState) (time : Timestamp)
  | superstepStarted (superstep : Nat)
  | executorInvoked (executorId : String) (superstep : Nat)
  | executorCompleted (executorId : String) (superstep : Nat)
  | superstepCompleted (superstep : Nat)
  | output (executorId : String) (data : Value)
  | requestInfo (requestId source : String) (data : Message) (responseKind : String)
  | failed (details : Failure) (time : Timestamp)
  deriving Inhabited

namespace Event

/-- The names of the events, in declaration order. -/
def typeNames : List String :=
  ["started", "status", "superstep_started", "executor_invoked", "executor_completed",
    "superstep_completed", "output", "request_info", "failed"]

/-- The name of an event. -/
def typeName : Event → String
  | .started .. => "started"
  | .status .. => "status"
  | .superstepStarted .. => "superstep_started"
  | .executorInvoked .. => "executor_invoked"
  | .executorCompleted .. => "executor_completed"
  | .superstepCompleted .. => "superstep_completed"
  | .output .. => "output"
  | .requestInfo .. => "request_info"
  | .failed .. => "failed"

/-- The data of an output event. -/
def asOutput? : Event → Option Value
  | .output _ v => some v
  | _ => none

/-- The state of a status event. -/
def asStatus? : Event → Option RunState
  | .status s _ => some s
  | _ => none

/-- The request id of a request event. -/
def requestId? : Event → Option String
  | .requestInfo id .. => some id
  | _ => none

/-- The details of a failure event. -/
def failure? : Event → Option Failure
  | .failed d _ => some d
  | _ => none

/-- The fields of the stored form, without the type. -/
def fields : Event → List (String × Json)
  | .started id t => [("run_id", .string id.toText), ("timestamp", .string t.toText)]
  | .status s t => [("state", .string s.name), ("timestamp", .string t.toText)]
  | .superstepStarted n => [("superstep", Json.int n)]
  | .executorInvoked id n => [("executor_id", .string id), ("superstep", Json.int n)]
  | .executorCompleted id n => [("executor_id", .string id), ("superstep", Json.int n)]
  | .superstepCompleted n => [("superstep", Json.int n)]
  | .output id v => [("data", v.toWire), ("executor_id", .string id)]
  | .requestInfo id src m k =>
    [("data", m.toWire), ("request_id", .string id), ("response_kind", .string k),
      ("source_executor_id", .string src)]
  | .failed d t => [("details", d.toWire), ("timestamp", .string t.toText)]

/-- The stored form: the fields and the type. -/
def toWire (e : Event) : Json := .object (e.fields ++ [("type", .string e.typeName)])

/-! ## Reading -/

/-- The `usize` numbers of the fields. -/
def countShape : Wire.Shape := .unsigned "usize" (Nat.pow 2 64 - 1)

/-- The record shape of each event, by its index in `typeNames`. -/
def shapes : List Wire.Shape :=
  let v (name : String) (fields : List (String × Wire.Shape × Option Json)) : Wire.Shape :=
    .record ("struct variant WorkflowEvent::" ++ name) fields
  [v "Started" [("run_id", .uuid, none), ("timestamp", .timestamp, none)],
   v "Status" [("state", .unitEnum RunState.names, none), ("timestamp", .timestamp, none)],
   v "SuperstepStarted" [("superstep", countShape, none)],
   v "ExecutorInvoked" [("executor_id", .string, none), ("superstep", countShape, none)],
   v "ExecutorCompleted" [("executor_id", .string, none), ("superstep", countShape, none)],
   v "SuperstepCompleted" [("superstep", countShape, none)],
   v "Output" [("executor_id", .string, none), ("data", .value, none)],
   v "RequestInfo" [("request_id", .string, none), ("source_executor_id", .string, none),
     ("data", Message.shape, none), ("response_kind", .string, none)],
   v "Failed" [("details", Failure.shape, none), ("timestamp", .timestamp, none)]]

/-- A string field of a normal form. -/
def text (j : Json) (key : String) : String := ((j.get? key).bind Json.asStr?).getD ""

/-- A count field of a normal form. -/
def count (j : Json) (key : String) : Nat := ((j.get? key).bind Json.asU64?).getD 0

/-- A time field of a normal form. -/
def time (j : Json) (key : String) : Timestamp :=
  match Timestamp.parse (text j key) with
  | .ok t => t
  | .error _ => Timestamp.epoch

/-- The event of index `tag` that a normal form of its shape stands for. -/
def ofWire (tag : Nat) (j : Json) : Event :=
  match tag with
  | 0 =>
    let id := match Uuid.parse (text j "run_id") with
      | .ok u => u
      | .error _ => default
    .started id (time j "timestamp")
  | 1 => .status ((RunState.ofName? (text j "state")).getD .idle) (time j "timestamp")
  | 2 => .superstepStarted (count j "superstep")
  | 3 => .executorInvoked (text j "executor_id") (count j "superstep")
  | 4 => .executorCompleted (text j "executor_id") (count j "superstep")
  | 5 => .superstepCompleted (count j "superstep")
  | 6 => .output (text j "executor_id") (Value.ofWire ((j.get? "data").getD .null))
  | 7 => .requestInfo (text j "request_id") (text j "source_executor_id")
    (Message.ofWire ((j.get? "data").getD .null)) (text j "response_kind")
  | _ => .failed (Failure.ofWire ((j.get? "details").getD .null)) (time j "timestamp")

/-- Finds the type of a stored event and the rest of its data. -/
def splitTag (j : Json) : Except DecodeError (Nat × Json) :=
  let tag := Wire.Shape.variantIndex false typeNames
  match j with
  | .object entries =>
    match Json.lookup entries "type" with
    | some t => do
      let i ← tag t
      pure (i, .object (entries.filter (·.1 != "type")))
    | none => .error (.missingField "type")
  | .array (t :: rest) => do
    let i ← tag t
    pure (i, .array rest)
  | .array [] => .error (.missingField "type")
  | _ => .error (Wire.Shape.mismatch j "internally tagged enum WorkflowEvent")

/-- Reads an event from its stored form. -/
def decode (j : Json) : Except DecodeError Event := do
  let (tag, rest) ← splitTag j
  let normal ← Wire.Shape.decode true (Wire.Shape.fuelFor j) (shapes.getD tag .any) rest
  pure (ofWire tag normal)

end Event

end Superstep
