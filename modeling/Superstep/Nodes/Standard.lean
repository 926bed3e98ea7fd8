import Superstep.Engine.Executor
import Superstep.Core.Config
import Superstep.Text.Space
import Superstep.Text.Upper

/-!
# The standard executors

Seven executor types, each with a factory that reads its configuration:

* `text.upper_case`: upper-cases text and forwards it;
* `text.reverse`: reverses text by characters, yields it and forwards it;
* `text.validate`: fails on blank text or text shorter than `min_length` (default 1), and
  forwards everything else unchanged;
* `number.increment`: adds `increment` (default 1) to an integer body and forwards the sum, or
  yields it once it reaches `limit`;
* `time.delay`: forwards messages unchanged after `delay_ms` (default 1000) milliseconds, which
  changes nothing but timing;
* `debug.log`: forwards messages, yielding their bodies when `yield_output` is set;
* `human.approval`: holds each message and asks the caller to approve it; approved messages go
  on, and every decision is yielded.

The last three accept the kinds listed under `accepts`, or `text` and `number` by default.
-/

namespace Superstep

/-- What a registry says about an executor type. -/
structure Metadata where
  description : String := ""
  category : String := "general"
  accepts : List String := []
  emits : List String := []
  deriving Inhabited

/-- An executor type: its registry key, its metadata, and how to make an executor of it from an
id and a configuration. -/
structure Factory where
  typeName : String
  metadata : Metadata := {}
  create : String → Config → Except ExecutorError Executor

namespace Nodes

/-- The kind of text messages. -/
def textKind : String := "text"

/-- The kind of integer messages. -/
def numberKind : String := "number"

/-- A text message. -/
def text (s : String) : Message := ⟨textKind, .string s⟩

/-- An integer message; the number is stored as the nearest double. -/
def number (n : Int) : Message := ⟨numberKind, Value.ofInt n⟩

/-- The text of a message body, or the invalid-payload error. -/
def expectText (m : Message) : Except ExecutorError String :=
  match m.body.asStr? with
  | some s => .ok s
  | none => .error (.invalidPayload m.kind "expected a string body")

/-- Runs a check inside a handler. -/
def lift {α : Type} (r : Except ExecutorError α) : Handler α :=
  match r with
  | .ok a => pure a
  | .error e => throw e

/-- The kinds listed under `accepts`, or `text` and `number` when absent. -/
def acceptedKinds (config : Config) : Except ExecutorError (List String) :=
  match config.find? "accepts" with
  | none => .ok [textKind, numberKind]
  | some (.array items) => items.mapM fun item =>
    match item with
    | .string s => .ok s
    | _ => .error (.configuration ("'accepts' entries must be strings, got " ++ item.render))
  | some other =>
    .error (.configuration ("'accepts' must be a list of message kinds, got " ++ other.render))

/-- Capabilities accepting the given kinds. -/
def acceptingAll (kinds : List String) : Capabilities :=
  kinds.foldl Capabilities.acceptsKind Capabilities.empty

/-- An executor without a response handler. -/
def simple (id : String) (caps : Capabilities) (handle : Message → Handler Unit) : Executor :=
  { id, caps, handle, handleResponse := Executor.noResponseHandler id }

/-! ## Text -/

/-- An executor that upper-cases text and forwards it. -/
def upperCaser (id : String) : Executor :=
  simple id (acceptingAll [textKind]) fun m => do
    let s ← lift (expectText m)
    Handler.send (text (Text.toUpper s))

/-- Upper-cases text and forwards it. -/
def upperCase : Factory where
  typeName := "text.upper_case"
  metadata := ⟨"Convert text to upper case", "transform", [textKind], [textKind]⟩
  create id _ := .ok (upperCaser id)

/-- An executor that reverses text by characters, yields it and forwards it. -/
def reverser (id : String) : Executor :=
  simple id (acceptingAll [textKind]) fun m => do
    let s ← lift (expectText m)
    let r := String.ofList s.toList.reverse
    Handler.yieldOutput (.string r)
    Handler.send (text r)

/-- Reverses text by characters, yields it and forwards it. -/
def reverse : Factory where
  typeName := "text.reverse"
  metadata := ⟨"Reverse text and yield it as output", "transform", [textKind], [textKind]⟩
  create id _ := .ok (reverser id)

/-- The check of `text.validate`: non-blank, and at least `minLength` characters. -/
def validateText (minLength : Nat) (s : String) : Except ExecutorError Unit :=
  if (Text.trim s).isEmpty then .error (.executionFailed "Input text must not be empty")
  else if s.length < minLength then
    .error (.executionFailed ("Input text must be at least " ++ toString minLength ++ " characters"))
  else .ok ()

/-- An executor that fails on blank text or text shorter than `minLength`, and forwards
everything else. -/
def validator (id : String) (minLength : Nat) : Executor :=
  simple id (acceptingAll [textKind]) fun m => do
    let s ← lift (expectText m)
    lift (validateText minLength s)
    Handler.send m

/-- Fails on blank or too short text and forwards everything else. -/
def validate : Factory where
  typeName := "text.validate"
  metadata := ⟨"Fail the run on blank or too short text", "transform", [textKind], [textKind]⟩
  create id config := do
    let n := (← config.int? "min_length").getD 1
    if n < 0 then
      throw (.configuration ("'min_length' must not be negative, got " ++ toString n))
    pure (validator id n.toNat)

/-! ## Numbers -/

/-- The step of `number.increment`: the sum, or an error when it leaves the signed 64-bit
range. -/
def incremented (current increment : Int) : Except ExecutorError Int :=
  let next := current + increment
  if JsonNumber.i64Min ≤ next ∧ next ≤ JsonNumber.i64Max then .ok next
  else .error (.executionFailed (toString current ++ " + " ++ toString increment ++ " overflows"))

/-- An executor that adds `step` to an integer and forwards the sum or, once it reaches
`limit`, yields it. -/
def incrementer (id : String) (step : Int) (limit : Option Int) : Executor :=
  simple id (acceptingAll [numberKind]) fun m => do
    let current ← lift <| match m.body.asI64? with
      | some i => .ok i
      | none => .error (.invalidPayload m.kind "expected an integer body")
    let next ← lift (incremented current step)
    match limit with
    | some l => if l ≤ next then Handler.yieldOutput (Value.ofInt next) else Handler.send (number next)
    | none => Handler.send (number next)

/-- Adds to a number, and forwards it or, once it reaches the limit, yields it. -/
def increment : Factory where
  typeName := "number.increment"
  metadata := ⟨"Add to a number; yield it once a limit is reached", "number", [numberKind],
    [numberKind]⟩
  create id config := do
    let step := (← config.int? "increment").getD 1
    let limit ← config.int? "limit"
    pure (incrementer id step limit)

/-! ## Plumbing -/

/-- An executor that forwards messages of the given kinds unchanged after `ms` milliseconds. -/
def delayer (id : String) (ms : Nat) (kinds : List String) : Executor :=
  { simple id (acceptingAll kinds) Handler.send with pause := ms }

/-- Forwards messages unchanged after a delay. -/
def delay : Factory where
  typeName := "time.delay"
  metadata := ⟨"Delay messages for specified milliseconds", "time", [textKind, numberKind],
    [textKind, numberKind]⟩
  create id config := do
    let ms := (← config.int? "delay_ms").getD 1000
    if ms < 0 then throw (.configuration ("'delay_ms' must not be negative, got " ++ toString ms))
    let kinds ← acceptedKinds config
    pure (delayer id ms.toNat kinds)

/-- An executor that forwards messages of the given kinds, yielding their bodies when
`yieldBodies` is set. -/
def logger (id : String) (kinds : List String) (yieldBodies : Bool) : Executor :=
  simple id (acceptingAll kinds) fun m => do
    if yieldBodies then Handler.yieldOutput m.body
    Handler.send m

/-- Forwards messages, yielding their bodies when asked to. -/
def log : Factory where
  typeName := "debug.log"
  metadata := ⟨"Logs messages for debugging and forwards them", "debug", [textKind, numberKind],
    [textKind, numberKind]⟩
  create id config := do
    let yieldBodies ← match config.find? "yield_output" with
      | none => pure false
      | some (.bool b) => pure b
      | some other =>
        throw (.configuration ("'yield_output' must be a boolean, got " ++ other.render))
    let kinds ← acceptedKinds config
    pure (logger id kinds yieldBodies)

/-! ## Approval -/

/-- The kind of approval requests. -/
def approvalRequestKind : String := "approval_request"

/-- The kind of approval responses. -/
def approvalResponseKind : String := "approval_response"

/-- The stored shape of an approval request: the prompt, the kind of the held message and the
held message's body. -/
def approvalRequestShape : Wire.Shape :=
  .record "struct ApprovalRequest"
    [("prompt", .string, none), ("kind", .string, none), ("subject", .any, none)]

/-- The stored shape of an approval response: the decision and an optional reason. -/
def approvalResponseShape : Wire.Shape :=
  .record "struct ApprovalResponse" [("approved", .bool, none), ("reason", .option .string, some .null)]

/-- An approval decision. -/
structure Approval where
  approved : Bool
  reason : Option String := none

/-- The decision a normal form of `approvalResponseShape` stands for. -/
def Approval.ofWire (j : Json) : Approval :=
  ⟨((j.get? "approved").bind Json.asBool?).getD false, (j.get? "reason").bind Json.asStr?⟩

/-- The message answering an approval request with a decision. -/
def Approval.toMessage (a : Approval) : Message :=
  ⟨approvalResponseKind, .json (Json.ofFields
    [("approved", .bool a.approved), ("reason", match a.reason with
      | some r => .string r
      | none => .null)])⟩

/-- Asks for approval of a message. -/
def askApproval (prompt : String) (m : Message) : Handler Unit := do
  let request := Json.ofFields
    [("prompt", .string prompt), ("kind", .string m.kind), ("subject", m.body.toJson)]
  let _ ← Handler.requestInfo ⟨approvalRequestKind, .json request⟩ approvalResponseKind

/-- Handles a decision: counts it, yields it, and forwards the held message when approved. -/
def applyApproval (request response : Message) : Handler Unit := do
  let held ← lift (request.toPayload approvalRequestKind approvalRequestShape)
  let decision ← lift (response.toPayload approvalResponseKind approvalResponseShape)
  let approved := ((decision.get? "approved").bind Json.asBool?).getD false
  let key := if approved then "approved" else "denied"
  let count := (((← Handler.getState key).bind Value.asI64?).getD 0) + 1
  Handler.setState key (Value.ofInt count)
  let subject := (held.get? "subject").getD .null
  let ctx ← Handler.context
  Handler.yieldOutput (.json (Json.ofFields
    [("request_id", match ctx.requestId with
      | some r => .string r
      | none => .null),
     ("approved", .bool approved), ("reason", (decision.get? "reason").getD .null),
     ("value", subject)]))
  if approved then
    Handler.send ⟨((held.get? "kind").bind Json.asStr?).getD "", Value.ofJson subject⟩

/-- An executor that holds each message of the given kinds until the caller approves or denies
it, asking with `prompt`. -/
def approver (id prompt : String) (kinds : List String) : Executor where
  id
  caps := (acceptingAll kinds).respondsTo approvalRequestKind approvalResponseKind
  handle := askApproval prompt
  handleResponse := applyApproval

/-- Holds each message until the caller approves or denies it. -/
def approval : Factory where
  typeName := "human.approval"
  metadata := ⟨"Ask the caller to approve each message before forwarding it", "human",
    [textKind, numberKind], [textKind, numberKind]⟩
  create id config := do
    let prompt := (← config.str? "prompt").getD "Approve?"
    let kinds ← acceptedKinds config
    pure (approver id prompt kinds)

/-- The standard executor types. -/
def standard : List Factory := [upperCase, reverse, validate, increment, delay, log, approval]

end Nodes

end Superstep
